import MovePlan.Cli.Command

/-!
# Asking for an analysis

An option that is written with an equals sign takes the text behind it as its value, whatever that text
is. So every owner, every plan and every protocol can be asked about (`readOrder_asking`).
-/

namespace MovePlan.Cli

/-- An argument with the name of an option and its value. -/
def choice (s : String × String) : String := "--" ++ s.1 ++ "=" ++ s.2

/-- What such an argument is. -/
def chosen (s : String × String) : Argument :=
  .option (valueOption s.1) (some ⟨false, s.2.toList⟩)

/-- What an analysis is asked for with. -/
def choicesFor (owner : String) (plan protocol : Option String) : List (String × String) :=
  ("owner", owner) :: ((plan.map ("plan", ·)).toList ++ (protocol.map ("vault-protocol", ·)).toList)

/-- A command line that asks for an analysis as JSON. -/
def asking (outcome owner : String) (plan protocol : Option String) : List String :=
  "analyze" :: outcome :: "--json" :: (choicesFor owner plan protocol).map choice

/-! ## Arguments -/

section

variable {specs : List OptionSpec} {s : String × String} {choices : List (String × String)}
  {outcome owner : String} {plan protocol : Option String}

/-- What does not begin with a dash is a word. -/
theorem argumentOf_word {w : List Char} (h : w.head? ≠ some '-') :
    argumentOf specs w = some (.word w) :=
  if_pos (Or.inl h)

/-- Arguments are read if each of them is. -/
theorem exists_arguments {args : List (List Char)}
    (h : ∀ arg ∈ args, ∃ t, argumentOf specs arg = some t) : ∃ ts, arguments specs args = some ts := by
  induction args with
  | nil => exact ⟨[], rfl⟩
  | cons arg rest ih =>
    rw [List.forall_mem_cons] at h
    obtain ⟨⟨t, ht⟩, hrest⟩ := h
    obtain ⟨ts, hts⟩ := ih hrest
    rw [arguments]
    split
    · exact ⟨_, rfl⟩
    · exact ⟨t :: ts, by rw [ht, hts]; rfl⟩

/-- A word that a flag follows. -/
theorem readEach_word_flag {g : Given} {w : List Char} {o : OptionSpec} {ts : List Argument}
    (hword : g.word = none) (hflag : o.effect = .flag) :
    readEach specs g (.word w :: .option o none :: ts) =
      readEach specs { g with word := some (String.ofList w), flags := g.flags ++ [o.name] } ts := by
  rw [readEach.eq_def]
  simp only [hword]
  rw [readEach.eq_def]
  simp [hflag, flagsOf, Given.set]

/-! ## Choices -/

/-- Whether a choice is one of an analysis. -/
def IsChoice (s : String × String) : Prop := s.1 ∈ ["owner", "plan", "vault-protocol"]

theorem IsChoice.cases {motive : String → Prop} (h : IsChoice s) (howner : motive "owner")
    (hplan : motive "plan") (hprotocol : motive "vault-protocol") : motive s.1 := by
  simp only [IsChoice, List.mem_cons, List.not_mem_nil, or_false] at h
  rcases h with h | h | h <;> rw [h] <;> assumption

/-- An analysis is asked for with its own choices only. -/
theorem isChoice_of_mem (h : s ∈ choicesFor owner plan protocol) : IsChoice s := by
  simp only [choicesFor, List.mem_cons, List.mem_append, Option.mem_toList,
    Option.map_eq_some_iff] at h
  rcases h with rfl | ⟨_, -, rfl⟩ | ⟨_, -, rfl⟩ <;> simp [IsChoice]

theorem toList_choice (s : String × String) :
    (choice s).toList = '-' :: '-' :: (s.1.toList ++ '=' :: s.2.toList) := by
  simp [choice]

/-- A choice is read as its option with the text behind the equals sign. -/
theorem argumentOf_choice (h : IsChoice s) :
    argumentOf analyzeOptions (choice s).toList = some (chosen s) := by
  rw [toList_choice, chosen]
  exact h.cases (motive := fun name => argumentOf analyzeOptions
    ('-' :: '-' :: (name.toList ++ '=' :: s.2.toList)) =
      some (.option (valueOption name) (some ⟨false, s.2.toList⟩))) rfl rfl rfl

/-- Choices in a row are read one after the other. -/
theorem arguments_choices (h : ∀ s ∈ choices, IsChoice s) :
    arguments analyzeOptions (choices.map fun s => (choice s).toList) =
      some (choices.map chosen) := by
  induction choices with
  | nil => rfl
  | cons s rest ih =>
    rw [List.forall_mem_cons] at h
    have hs : (choice s).toList ≠ ['-', '-'] := by
      rw [toList_choice]
      simp
    rw [List.map_cons, arguments, if_neg hs, argumentOf_choice h.1, ih h.2]
    rfl

/-- They are given one after the other. -/
theorem readEach_choices (g : Given) :
    readEach specs g (choices.map chosen) = .done { g with values := g.values ++ choices } := by
  induction choices generalizing g with
  | nil => simp [readEach]
  | cons s rest ih =>
    have hvalue : (valueOption s.1).effect = .value := rfl
    rw [List.map_cons, chosen, readEach, if_pos hvalue, ih]
    simp [valueOption]

/-- The options before the command are other ones. -/
theorem exists_argumentOf_choice (h : IsChoice s) :
    ∃ t, argumentOf frontOptions (choice s).toList = some t := by
  have hhead : ¬((choice s).toList.head? ≠ some '-' ∨ (choice s).toList.length = 1) := by
    simp [toList_choice]
  have hnone : wholeOption? frontOptions (choice s).toList = none ∧
      candidates frontOptions (choice s).toList = [] := by
    rw [toList_choice]
    exact h.cases (motive := fun name =>
      wholeOption? frontOptions ('-' :: '-' :: (name.toList ++ '=' :: s.2.toList)) = none ∧
        candidates frontOptions ('-' :: '-' :: (name.toList ++ '=' :: s.2.toList)) = [])
      ⟨rfl, rfl⟩ ⟨rfl, rfl⟩ ⟨rfl, rfl⟩
  exact ⟨_, by rw [argumentOf, if_neg hhead, hnone.1, hnone.2]⟩

theorem toList_ne_dashes (h : outcome.toList.head? ≠ some '-') : outcome.toList ≠ ['-', '-'] := by
  intro hdashes
  simp [hdashes] at h

/-- An outcome, the flag for JSON and choices are all that is given. -/
theorem readArguments_choices (h : outcome.toList.head? ≠ some '-')
    (hchoices : ∀ s ∈ choices, IsChoice s) :
    readArguments analyzeOptions (outcome :: "--json" :: choices.map choice) =
      .done ⟨choices, ["json"], some outcome, false⟩ := by
  have harguments : arguments analyzeOptions
      ((outcome :: "--json" :: choices.map choice).map String.toList) =
        some (.word outcome.toList :: .option ⟨"json", .flag, none⟩ none ::
          choices.map chosen) := by
    have hjson : argumentOf analyzeOptions "--json".toList =
      some (.option ⟨"json", .flag, none⟩ none) := by rfl
    have hne : "--json".toList ≠ ['-', '-'] := by decide
    simp only [List.map_cons, List.map_map, Function.comp_def, arguments, if_neg (toList_ne_dashes h),
      argumentOf_word h, if_neg hne, hjson, arguments_choices hchoices]
    rfl
  simp only [readArguments, harguments]
  rw [readEach_word_flag rfl rfl, readEach_choices, String.ofList_toList]
  rfl

/-! ## The order -/

/-- **Every owner, every plan and every position can be asked about.** -/
theorem readOrder_asking (h : outcome.toList.head? ≠ some '-') :
    readOrder (asking outcome owner plan protocol) =
      .done ⟨.analyze outcome owner plan protocol, ⟨true, none⟩⟩ := by
  have hchoices : ∀ s ∈ choicesFor owner plan protocol, IsChoice s := fun _ => isChoice_of_mem
  obtain ⟨ts, hts⟩ : ∃ ts, arguments frontOptions
      ((outcome :: "--json" :: (choicesFor owner plan protocol).map choice).map String.toList) =
        some ts := by
    refine exists_arguments ?_
    simp only [List.map_cons, List.map_map, List.forall_mem_cons, List.forall_mem_map]
    exact ⟨⟨_, argumentOf_word h⟩, ⟨.unknown, rfl⟩,
      fun s hs => exists_argumentOf_choice (hchoices s hs)⟩
  have hfront : arguments frontOptions ((asking outcome owner plan protocol).map String.toList) =
      some (.word "analyze".toList :: ts) := by
    rw [asking, List.map_cons, arguments, if_neg (by decide), hts]
    rfl
  rw [readOrder, hfront]
  change readCommand "analyze" (outcome :: "--json" :: _) false = _
  simp only [readCommand, optionsOf?, readArguments_choices h hchoices]
  cases plan <;> cases protocol <;> rfl

end

end MovePlan.Cli
