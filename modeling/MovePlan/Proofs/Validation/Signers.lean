import MovePlan.Proofs.Validation.WellFormed

/-!
# Signers and their places

A signature asks for its signers in front. The check of a call looks at how many signers and how many
other arguments there are, and apart from that at the place of each (`misplaced`). It has nothing to say
exactly of the calls that give the signers first and then the other arguments, as many of each as are
asked for.

A place alone is advice. When the counts are right the places can be wrong only by exchange: as many
signers are missing in front as stand behind (`length_missing_eq_length_stray`).
-/

namespace MovePlan.Validation

open Move Graph Abi Error

/-- The position that a finding about a signer names. -/
def Issue.position? : Issue → Option Nat
  | .signerExpected position _ | .signerMisplaced position _ => some position
  | _ => none

/-- Whether the argument at a position is of the wrong sort, if the first `k` are to be signers and no
other is. -/
def isMisplaced (k : Nat) (place : Arg × Nat) : Bool :=
  if place.2 < k then !place.1.isSigner else place.1.isSigner

/-- The positions of the arguments of the wrong sort, in ascending order. -/
def misplaced (k : Nat) (args : List Arg) : List Nat :=
  (args.zipIdx.filter (isMisplaced k)).map Prod.snd

/-- Whether there are `k` signers and then `m` arguments of other sorts. -/
def IsShaped (k m : Nat) (args : List Arg) : Prop :=
  args.map Arg.isSigner = List.replicate k true ++ List.replicate m false

variable {s : Step} {sig : Signature} {label : String} {k m : Nat} {args : List Arg}
  {findings : List Finding}

/-! ## The findings name the positions -/

/-- What is said of an argument of the wrong sort names its position; of the others nothing is said. -/
theorem exists_checkPosition_eq (sig : Signature) (label : String) (position : Nat) {a : Arg}
    (ha : a.isProper = true) : ∃ findings, checkPosition sig label position a = .ok findings ∧
      (∀ f ∈ findings, f.code = "SIGNER_MISMATCH") ∧
      findings.map (·.issue.position?) =
        if isMisplaced sig.signers (a, position) then [some position] else [] := by
  have hkind : ∃ kind, a.kind? = some kind := by cases a <;> first | exact ⟨_, rfl⟩ | cases ha
  obtain ⟨kind, hkind⟩ := hkind
  unfold checkPosition isMisplaced
  by_cases hfront : position < sig.signers
  · cases hsigner : a.isSigner with
    | true => exact ⟨[], by simp [hfront], by simp, by simp [hfront]⟩
    | false =>
      exact ⟨[⟨label, .signerExpected position kind⟩], by simp [hfront, hkind],
        by simp [Finding.code, Issue.code], by simp [hfront, Issue.position?]⟩
  · cases hsigner : a.isSigner with
    | true =>
      let type := (sig.params[position - sig.signers]?).getD "unknown"
      exact ⟨[⟨label, .signerMisplaced position type⟩], by simp [hfront, type],
        by simp [Finding.code, Issue.code], by simp [hfront, Issue.position?]⟩
    | false => exact ⟨[], by simp [hfront], by simp, by simp [hfront]⟩

theorem exists_checkPositions_eq (sig : Signature) (label : String) (position : Nat)
    (hp : ∀ a ∈ args, a.isProper = true) :
    ∃ findings, checkPositions sig label position args = .ok findings ∧
      (∀ f ∈ findings, f.code = "SIGNER_MISMATCH") ∧
      findings.map (·.issue.position?) =
        ((args.zipIdx position).filter (isMisplaced sig.signers)).map (some ·.2) := by
  induction args generalizing position with
  | nil => exact ⟨[], rfl, by simp, rfl⟩
  | cons a rest ih =>
    obtain ⟨here, hhere, hcode, hposition⟩ :=
      exists_checkPosition_eq sig label position (hp a List.mem_cons_self)
    obtain ⟨later, hlater, hcodes, hpositions⟩ :=
      ih (position + 1) fun b hb => hp b (List.mem_cons_of_mem a hb)
    refine ⟨here ++ later, ?_, fun f hf => (List.mem_append.mp hf).elim (hcode f) (hcodes f), ?_⟩
    · simp only [checkPositions, hhere, hlater, bind, Except.bind, pure, Except.pure]
    · rw [List.map_append, hposition, hpositions, List.zipIdx_cons, List.filter_cons]
      split <;> rfl

/-- The findings about the sorts of arguments are three counts and one finding for each position of the
wrong sort. -/
theorem exists_checkStep_eq (hp : ∀ a ∈ s.args, a.isProper = true) (sig : Signature) :
    ∃ findings, checkStep s sig = .ok findings ∧
      (findings = [] ↔ Fills s sig ∧ misplaced sig.signers s.args = []) ∧
      (findings.filter (·.code == "SIGNER_MISMATCH")).map (·.issue.position?) =
        (misplaced sig.signers s.args).map some := by
  obtain ⟨positions, hpositions, hcode, hnamed⟩ := exists_checkPositions_eq sig s.label 0 hp
  have hmap : positions.map (·.issue.position?) = (misplaced sig.signers s.args).map some := by
    rw [hnamed, misplaced, List.map_map]
    rfl
  have hnil : positions = [] ↔ misplaced sig.signers s.args = [] := by
    rw [← List.map_eq_nil_iff (f := fun f : Finding => f.issue.position?), hmap,
      List.map_eq_nil_iff]
  have hcount : ∀ (issue : Nat → Nat → Issue) (expected given : Nat),
      (issue expected given).code ≠ "SIGNER_MISMATCH" →
      (checkCount s.label issue expected given).filter (·.code == "SIGNER_MISMATCH") = [] := by
    intro issue expected given hne
    rw [List.filter_eq_nil_iff]
    intro f hf
    rw [(mem_checkCount.mp hf).2]
    simpa [Finding.code] using hne
  refine ⟨_, by rw [checkStep, hpositions]; rfl, ?_, ?_⟩
  · simp only [List.append_eq_nil_iff, hnil, checkCount, ite_eq_left_iff, List.cons_ne_nil,
      imp_false, Decidable.not_not]
    constructor
    · rintro ⟨⟨⟨hg, hs⟩, hp⟩, hm⟩
      exact ⟨⟨hg, hs, hp⟩, hm⟩
    · rintro ⟨h, hm⟩
      exact ⟨⟨⟨h.generics, h.signers⟩, h.params⟩, hm⟩
  · rw [List.filter_append, List.filter_append, List.filter_append,
      hcount _ _ _ (by simp [Issue.code]), hcount _ _ _ (by simp [Issue.code]),
      hcount _ _ _ (by simp [Issue.code]), List.filter_eq_self.mpr fun f hf => by simp [hcode f hf]]
    exact hmap

/-! ## In front and behind -/

/-- The positions in front that have no signer. -/
def missing (k : Nat) (args : List Arg) : List Nat :=
  ((args.take k).zipIdx.filter fun place => !place.1.isSigner).map Prod.snd

/-- The positions behind that have one. -/
def stray (k : Nat) (args : List Arg) : List Nat :=
  (((args.drop k).zipIdx k).filter fun place => place.1.isSigner).map Prod.snd

theorem lt_of_mem_missing {i : Nat} (h : i ∈ missing k args) : i < k := by
  obtain ⟨⟨a, j⟩, hmem, rfl⟩ := List.mem_map.mp h
  have hj := List.snd_lt_of_mem_zipIdx (List.mem_filter.mp hmem).1
  rw [List.length_take] at hj
  omega

theorem le_of_mem_stray {i : Nat} (h : i ∈ stray k args) : k ≤ i := by
  obtain ⟨⟨a, j⟩, hmem, rfl⟩ := List.mem_map.mp h
  exact List.le_snd_of_mem_zipIdx (List.mem_filter.mp hmem).1

theorem misplaced_eq (k : Nat) (args : List Arg) :
    misplaced k args = missing k args ++ stray k args := by
  have hfront : (args.take k).zipIdx.filter (isMisplaced k) =
      (args.take k).zipIdx.filter fun place => !place.1.isSigner := by
    refine List.filter_congr fun place hmem => ?_
    have hlt := List.snd_lt_of_mem_zipIdx hmem
    rw [List.length_take] at hlt
    rw [isMisplaced, if_pos (by omega)]
  have hbehind : ((args.drop k).zipIdx k).filter (isMisplaced k) =
      ((args.drop k).zipIdx k).filter fun place => place.1.isSigner := by
    refine List.filter_congr fun place hmem => ?_
    have hle := List.le_snd_of_mem_zipIdx hmem
    rw [isMisplaced, if_neg (by omega)]
  have hsplit : args.zipIdx = (args.take k).zipIdx ++ (args.drop k).zipIdx k := by
    rcases Nat.le_total k args.length with hk | hk
    · conv_lhs => rw [← List.take_append_drop k args]
      rw [List.zipIdx_append, List.length_take, Nat.min_eq_left hk, Nat.zero_add]
    · rw [List.take_of_length_le hk, List.drop_of_length_le hk, List.zipIdx_nil, List.append_nil]
  rw [misplaced, hsplit, List.filter_append, List.map_append, hfront, hbehind]
  rfl

theorem filter_lt_misplaced (k : Nat) (args : List Arg) :
    (misplaced k args).filter (· < k) = missing k args := by
  rw [misplaced_eq, List.filter_append, List.filter_eq_self.mpr, List.filter_eq_nil_iff.mpr,
    List.append_nil]
  · intro i hi
    have := le_of_mem_stray hi
    simpa using this
  · intro i hi
    simpa using lt_of_mem_missing hi

theorem filter_le_misplaced (k : Nat) (args : List Arg) :
    (misplaced k args).filter (k ≤ ·) = stray k args := by
  rw [misplaced_eq, List.filter_append, List.filter_eq_nil_iff.mpr, List.filter_eq_self.mpr,
    List.nil_append]
  · intro i hi
    simpa using le_of_mem_stray hi
  · intro i hi
    have := lt_of_mem_missing hi
    simpa using this

/-- Positions stand for the arguments at them. -/
theorem length_filter_zipIdx (p : Arg → Bool) (args : List Arg) (n : Nat) :
    (((args.zipIdx n).filter fun place => p place.1).map Prod.snd).length = args.countP p := by
  conv_rhs => rw [← List.zipIdx_map_fst n args]
  rw [List.length_map, List.countP_map, List.countP_eq_length_filter]
  rfl

theorem length_missing (k : Nat) (args : List Arg) :
    (missing k args).length = (args.take k).countP fun a => !a.isSigner :=
  length_filter_zipIdx (fun a => !a.isSigner) (args.take k) 0

theorem length_stray (k : Nat) (args : List Arg) :
    (stray k args).length = (args.drop k).countP Arg.isSigner :=
  length_filter_zipIdx Arg.isSigner (args.drop k) k

/-- **Where the counts are right, as many signers are missing in front as stand behind.** -/
theorem length_missing_eq_length_stray (hsigners : args.countP Arg.isSigner = k) :
    (missing k args).length = (stray k args).length := by
  have hle : k ≤ args.length := hsigners ▸ List.countP_le_length
  have hfront : (args.take k).length =
      (args.take k).countP Arg.isSigner + (args.take k).countP fun a => !a.isSigner := by
    simpa using List.length_eq_countP_add_countP Arg.isSigner (l := args.take k)
  have hall : (args.take k).countP Arg.isSigner + (args.drop k).countP Arg.isSigner = k := by
    rw [← List.countP_append, List.take_append_drop, hsigners]
  rw [List.length_take, Nat.min_eq_left hle] at hfront
  rw [length_missing, length_stray]
  omega

/-! ## The shape of a call -/

theorem misplaced_eq_nil_iff : misplaced k args = [] ↔
    (∀ a ∈ args.take k, a.isSigner = true) ∧ ∀ a ∈ args.drop k, a.isSigner = false := by
  rw [misplaced_eq, List.append_eq_nil_iff, ← List.length_eq_zero_iff, ← List.length_eq_zero_iff,
    length_missing, length_stray, List.countP_eq_zero, List.countP_eq_zero]
  simp

/-- A call has its shape when the counts are right and no argument is in the wrong place. -/
theorem isShaped_iff : IsShaped k m args ↔
    args.countP Arg.isSigner = k ∧ (args.countP fun a => !a.isSigner) = m ∧
      misplaced k args = [] := by
  rw [misplaced_eq_nil_iff, IsShaped]
  constructor
  · intro h
    have hsigners := congrArg (List.countP id) h
    have hothers := congrArg (List.countP (!·)) h
    have hfront := congrArg (List.take k) h
    have hbehind := congrArg (List.drop k) h
    rw [← List.map_take, List.take_left' (List.length_replicate)] at hfront
    rw [← List.map_drop, List.drop_left' (List.length_replicate)] at hbehind
    refine ⟨by simpa [List.countP_map, List.countP_replicate] using hsigners,
      by simpa [List.countP_map, List.countP_replicate, Function.comp_def] using hothers,
      fun a ha => ?_, fun a ha => ?_⟩
    · exact List.eq_of_mem_replicate (hfront ▸ List.mem_map_of_mem ha)
    · exact List.eq_of_mem_replicate (hbehind ▸ List.mem_map_of_mem ha)
  · rintro ⟨hsigners, hothers, hfront, hbehind⟩
    have hlen : args.length = k + m := by
      simpa [hsigners, hothers] using List.length_eq_countP_add_countP Arg.isSigner (l := args)
    have htrue : (args.take k).map Arg.isSigner = List.replicate k true :=
      List.eq_replicate_iff.mpr ⟨by simp [hlen], List.forall_mem_map.mpr hfront⟩
    have hfalse : (args.drop k).map Arg.isSigner = List.replicate m false :=
      List.eq_replicate_iff.mpr ⟨by simp [hlen], List.forall_mem_map.mpr hbehind⟩
    calc args.map Arg.isSigner
        = (args.take k).map Arg.isSigner ++ (args.drop k).map Arg.isSigner := by
          rw [← List.map_append, List.take_append_drop]
      _ = List.replicate k true ++ List.replicate m false := by rw [htrue, hfalse]

/-! ## Signatures of an interface -/

/-- The parameters of an entry are those for signers in front and the others; the signature asks for as
many of each. -/
theorem signature_of_params {entry : Json} {front others : List String}
    (h : Signature.ofEntry entry = .ok sig)
    (hparams : textsOf (entry.get "params") = .ok (front ++ others))
    (hfront : ∀ p ∈ front, p ∈ TypeName.signers)
    (hothers : ∀ p, others.head? = some p → p ∉ TypeName.signers) :
    countOf (entry.get "generic_type_params") = .ok sig.generics ∧ sig.signers = front.length ∧
      sig.params = others := by
  obtain ⟨params, generics, returns, hparams', hgenerics, -, rfl⟩ := exists_of_ofEntry h
  obtain rfl := Except.ok.inj (hparams'.symm.trans hparams)
  have hstop : others.takeWhile TypeName.signers.contains = [] := by
    cases others with
    | nil => rfl
    | cons p rest => exact List.takeWhile_cons_of_neg (by simpa using hothers p rfl)
  have hcount : countSigners (front ++ others) = front.length := by
    rw [countSigners, List.takeWhile_append_of_pos (by simpa using hfront), hstop,
      List.append_nil]
  exact ⟨hgenerics, hcount, by rw [hcount, List.drop_left]⟩

/-- **The check of a call is exact.** It has nothing to say of a call with as many type arguments as
there are type parameters that gives the signers first and then the other arguments, as many of each as
the interface has parameters. It names each position of the wrong sort once. Unless a count is wrong,
as many signers are missing in front as stand behind. -/
theorem checkStep_names_misplaced {entry : Json} {front others : List String} {generics : Nat}
    (hp : ∀ a ∈ s.args, a.isProper = true) (h : Signature.ofEntry entry = .ok sig)
    (hparams : textsOf (entry.get "params") = .ok (front ++ others))
    (hfront : ∀ p ∈ front, p ∈ TypeName.signers)
    (hothers : ∀ p, others.head? = some p → p ∉ TypeName.signers)
    (hgenerics : countOf (entry.get "generic_type_params") = .ok generics)
    (flags : List (Option Bool)) :
    ∃ findings, checkStep s (sig.withDroppable flags) = .ok findings ∧
      (findings = [] ↔ s.typeArguments.length = generics ∧
        IsShaped front.length others.length s.args) ∧
      (findings.filter (·.code == "SIGNER_MISMATCH")).map (·.issue.position?) =
        (misplaced front.length s.args).map some ∧
      ((∀ f ∈ findings, f.isHard = false) →
        ((misplaced front.length s.args).filter (· < front.length)).length =
          ((misplaced front.length s.args).filter (front.length ≤ ·)).length) := by
  obtain ⟨hgenerics', hsigners, hothers'⟩ := signature_of_params h hparams hfront hothers
  obtain rfl := Except.ok.inj (hgenerics'.symm.trans hgenerics)
  obtain ⟨findings, hfindings, hnil, hnamed⟩ := exists_checkStep_eq hp (sig.withDroppable flags)
  obtain ⟨_, hfindings', -, hsoft⟩ := exists_checkStep_eq_ok hp (sig.withDroppable flags)
  obtain rfl := Except.ok.inj (hfindings.symm.trans hfindings')
  have hcount : s.signerArgs.length = s.args.countP Arg.isSigner :=
    List.countP_eq_length_filter.symm
  have hrest : s.otherArgs.length = s.args.countP fun a => !a.isSigner :=
    List.countP_eq_length_filter.symm
  have hk : (sig.withDroppable flags).signers = front.length := hsigners
  have hm : (sig.withDroppable flags).params.length = others.length := congrArg List.length hothers'
  refine ⟨findings, hfindings, ?_, hk ▸ hnamed, fun hall => ?_⟩
  · rw [hnil, isShaped_iff, hk]
    constructor
    · rintro ⟨⟨htypes, hs, hp⟩, hplaces⟩
      exact ⟨htypes, by rw [← hcount, hs, hk], by rw [← hrest, hp, hm], hplaces⟩
    · rintro ⟨htypes, hs, hp, hplaces⟩
      exact ⟨⟨htypes, by rw [hcount, hs, hk], by rw [hrest, hp, hm]⟩, hplaces⟩
  · have hfills := hsoft.mp hall
    rw [filter_lt_misplaced, filter_le_misplaced]
    exact length_missing_eq_length_stray (by rw [← hcount, hfills.signers, hk])

/-- What an interface tells of the function that gives a coin. -/
def withdrawEntry : Json :=
  .obj [("params", .arr [.str "&signer", .str "u64"]), ("generic_type_params", .arr []),
    ("return", .arr [.str "0x7::coin::Coin"])]

/-- A call with the two arguments in the wrong order. -/
def swappedCall : Step :=
  { label := "take", function := withdraw, args := [.literal (.str "5n"), .signer] }

theorem checkStep_names_misplaced_swapped :
    (∀ a ∈ swappedCall.args, a.isProper = true) ∧
    Signature.ofEntry withdrawEntry = .ok withdrawSignature ∧
    textsOf (withdrawEntry.get "params") = .ok (["&signer"] ++ ["u64"]) ∧
    (∀ p ∈ ["&signer"], p ∈ TypeName.signers) ∧
    (∀ p, ["u64"].head? = some p → p ∉ TypeName.signers) ∧
    countOf (withdrawEntry.get "generic_type_params") = .ok 0 ∧
    ∃ findings, checkStep swappedCall (withdrawSignature.withDroppable [some false]) =
        .ok findings ∧ findings ≠ [] ∧
      (findings.filter (·.code == "SIGNER_MISMATCH")).map (·.issue.position?) =
        [some 0, some 1] := by
  have hp : ∀ a ∈ swappedCall.args, a.isProper = true := by simp [swappedCall, Arg.isProper]
  have hfront : ∀ p ∈ ["&signer"], p ∈ TypeName.signers := by decide
  have hothers : ∀ p, ["u64"].head? = some p → p ∉ TypeName.signers := by
    rintro p hp
    obtain rfl := Option.some.inj hp
    decide
  have hentry : Signature.ofEntry withdrawEntry = .ok withdrawSignature := rfl
  obtain ⟨findings, hfindings, hnil, hnamed, -⟩ :=
    checkStep_names_misplaced hp hentry rfl hfront hothers rfl [some false]
  refine ⟨hp, hentry, rfl, hfront, hothers, rfl, findings, hfindings, fun he => ?_, hnamed⟩
  have hshape := (hnil.mp he).2
  cases hshape

end MovePlan.Validation
