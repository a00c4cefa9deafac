import Mathlib.Algebra.BigOperators.Group.List.Lemmas
import Mathlib.Algebra.Order.Group.Nat
import MovePlan.Proofs.Graph.Listing
import MovePlan.Proofs.Plan.Idempotence
import MovePlan.Proofs.Text.Numeral

/-!
# The account of a repair

The corrections are shown as texts, each with the place and the name of its slip. A text is cut at its
first colon and blank, since no place has a colon in it (`cutText?_text`), and no two corrections have one
text (`Correction.text_injective`). So the texts tell which fields were changed and how often each slip
was repaired: they are a full account of the difference between a plan and its repair (`repair_accounts`).
-/

namespace MovePlan.Plan

open Json Text Numeric

/-! ## Texts of corrections -/

/-- What stands before and after the first colon with a blank behind it. -/
def cutText? : List Char → Option (List Char × List Char)
  | [] => none
  | ':' :: ' ' :: rest => some ([], rest)
  | c :: rest => (cutText? rest).map fun r => (c :: r.1, r.2)

/-- A text is cut at its first colon. -/
theorem cutText?_append {s : List Char} (rest : List Char) (h : ':' ∉ s) :
    cutText? (s ++ ':' :: ' ' :: rest) = some (s, rest) := by
  induction s with
  | nil => rfl
  | cons c s ih =>
    obtain ⟨hc, hs⟩ := not_or.mp (mt List.mem_cons.mpr h)
    rw [List.cons_append, cutText?, ih hs]
    · rfl
    · exact fun _ he => absurd he.symm hc

theorem natText_eq (n : Nat) : natText n = (toString n).toList := by
  simp [natText]

/-- What the text of a place has behind the item of its list. -/
def Place.ending : Place → String
  | arg _ j => s!".args[{j}]"
  | _ => ""

/-- The text of a place has its list, its index in brackets, and its ending. -/
theorem toList_text (p : Place) :
    p.text.toList = p.list.toList ++ '[' :: (natText p.index ++ ']' :: p.ending.toList) := by
  cases p <;>
    simp only [Place.text, Place.list, Place.index, Place.ending, String.toList_append, natText_eq,
      List.append_assoc] <;>
    rfl

theorem toList_ending_arg (i j : Nat) :
    (Place.arg i j).ending.toList = ".args[".toList ++ (natText j ++ [']']) := by
  simp only [Place.ending, String.toList_append, natText_eq, List.append_assoc]
  rfl

/-- No place has a colon in its text. -/
theorem colon_not_mem_text (p : Place) : ':' ∉ p.text.toList := by
  have hnat : ∀ n, ':' ∉ natText n := not_mem_natText rfl
  rw [toList_text]
  cases p with
  | step i => simp [Place.list, Place.ending, hnat]
  | arg i j => simp [Place.list, toList_ending_arg, hnat]
  | token i => simp [Place.list, Place.ending, hnat]

/-- The text of a correction is cut between its place and its slip. -/
theorem cutText?_text (c : Correction) :
    cutText? c.text.toList = some (c.place.text.toList, c.slip.name.toList) := by
  have htext : c.text.toList = c.place.text.toList ++ ':' :: ' ' :: c.slip.name.toList := by
    rw [Correction.text, String.toList_append, String.toList_append, List.append_assoc]
    rfl
  rw [htext, cutText?_append _ (colon_not_mem_text c.place)]

/-- Texts that are cut at their first separator are equal in both parts. -/
theorem eq_of_append_cons {c : Char} {s s' t t' : List Char} (hs : c ∉ s) (hs' : c ∉ s')
    (h : s ++ c :: t = s' ++ c :: t') : s = s' ∧ t = t' := by
  induction s generalizing s' with
  | nil =>
    cases s' with
    | nil => exact ⟨rfl, List.tail_eq_of_cons_eq h⟩
    | cons d rest => exact absurd (List.head_eq_of_cons_eq h ▸ List.mem_cons_self) hs'
  | cons d rest ih =>
    cases s' with
    | nil => exact absurd (List.head_eq_of_cons_eq h ▸ List.mem_cons_self) hs
    | cons d' rest' =>
      obtain ⟨rfl, htail⟩ := List.cons_eq_cons.mp h
      obtain ⟨rfl, ht⟩ := ih (fun hc => hs (List.mem_cons_of_mem d hc))
        (fun hc => hs' (List.mem_cons_of_mem d hc)) htail
      exact ⟨rfl, ht⟩

/-- A number with a bracket behind it is told from the text. -/
theorem eq_of_natText_append {m n : Nat} {s t : List Char}
    (h : natText m ++ ']' :: s = natText n ++ ']' :: t) : m = n ∧ s = t := by
  have hnat : ∀ n, ']' ∉ natText n := not_mem_natText rfl
  exact (eq_of_append_cons (hnat m) (hnat n) h).imp_left natText_injective

/-- A place is known from its text. -/
theorem Place.text_injective {p q : Place} (h : p.text = q.text) : p = q := by
  have hlist : ∀ r : Place, '[' ∉ r.list.toList := by rintro (_ | _ | _) <;> simp [Place.list]
  have htext : p.text.toList = q.text.toList := congrArg String.toList h
  rw [toList_text, toList_text] at htext
  obtain ⟨hplist, hrest⟩ := eq_of_append_cons (hlist p) (hlist q) htext
  obtain ⟨hindex, hending⟩ := eq_of_natText_append hrest
  have hplist : p.list = q.list := String.toList_inj.mp hplist
  cases p <;> cases q <;> cases hindex
  case step.step | token.token => rfl
  case arg.arg i j j' =>
    rw [toList_ending_arg, toList_ending_arg] at hending
    obtain ⟨rfl, -⟩ := eq_of_natText_append (List.append_cancel_left hending)
    rfl
  case step.arg | arg.step => exact absurd hending (by simp [Place.ending])
  case step.token | arg.token => exact absurd hplist (show "steps" ≠ "tokens" by decide)
  case token.step | token.arg => exact absurd hplist (show "tokens" ≠ "steps" by decide)

/-- A slip is known from its name. -/
theorem Slip.name_injective {s t : Slip} (h : s.name = t.name) : s = t := by
  cases s <;> cases t <;> first | rfl | exact absurd h (by decide)

/-- **A correction is told by its text.** -/
theorem Correction.text_injective {c d : Correction} (h : c.text = d.text) : c = d := by
  have hcut := cutText?_text c
  rw [h, cutText?_text, Option.some.injEq, Prod.mk.injEq] at hcut
  obtain ⟨place, slip⟩ := c
  obtain rfl := Place.text_injective (String.toList_inj.mp hcut.1)
  obtain rfl := Slip.name_injective (String.toList_inj.mp hcut.2)
  rfl

/-! ## Counts -/

/-- How many texts of corrections name a slip. -/
def timesNamed (slip : Slip) (texts : List String) : Nat :=
  texts.countP fun t => (cutText? t.toList).map Prod.snd == some slip.name.toList

variable {cs : List Correction} {slip : Slip} {n : Nat}

/-- A slip is named as often as it was corrected. -/
theorem timesNamed_texts (slip : Slip) (cs : List Correction) :
    timesNamed slip (cs.map Correction.text) = (cs.map Correction.slip).count slip := by
  rw [timesNamed, List.countP_map, List.count, List.countP_map]
  refine List.countP_congr fun c _ => ?_
  simp only [Function.comp_apply, cutText?_text, Option.map_some, beq_iff_eq, Option.some.injEq]
  exact ⟨fun h => Slip.name_injective (String.toList_inj.mp h), fun h => by rw [h]⟩

/-- The histogram counts each slip that occurs, in the order of its first occurrence. -/
theorem histogram_eq (cs : List Correction) :
    histogram cs = (StepGraph.distinct (cs.map Correction.slip)).map fun s =>
      (s, (cs.map Correction.slip).count s) := by
  refine List.map_congr_left fun s _ => ?_
  rw [List.count_eq_length_filter, List.filter_map, List.length_map]
  rfl

theorem mem_histogram_iff : (slip, n) ∈ histogram cs ↔
    0 < n ∧ n = timesNamed slip (cs.map Correction.text) := by
  rw [histogram_eq, timesNamed_texts, List.mem_map]
  constructor
  · rintro ⟨s, hs, heq⟩
    obtain ⟨rfl, rfl⟩ := Prod.mk.inj heq
    exact ⟨List.count_pos_iff.mpr (StepGraph.mem_distinct.mp hs), rfl⟩
  · rintro ⟨hpos, rfl⟩
    exact ⟨slip, StepGraph.mem_distinct.mpr (List.count_pos_iff.mp hpos), rfl⟩

/-- Its counts add up to the number of corrections. -/
theorem sum_histogram (cs : List Correction) :
    ((histogram cs).map Prod.snd).sum = cs.length := by
  let slips := cs.map Correction.slip
  have hperm : (StepGraph.distinct slips).Perm slips.dedup :=
    (List.perm_ext_iff_of_nodup (StepGraph.nodup_distinct _) (List.nodup_dedup _)).mpr fun s => by
      rw [StepGraph.mem_distinct, List.mem_dedup]
  calc ((histogram cs).map Prod.snd).sum
      = ((StepGraph.distinct slips).map slips.count).sum := by rw [histogram_eq, List.map_map]; rfl
    _ = (slips.dedup.map slips.count).sum := (hperm.map _).sum_eq
    _ = slips.length := List.sum_map_count_dedup_eq_length slips
    _ = cs.length := List.length_map _

/-! ## The account -/

/-- Whether corrections and their counts are a full account of what is different in two plans. -/
structure Accounts (p q : Json) (cs : List Correction) (counts : List (Slip × Nat)) : Prop where
  /-- All that no correction names is the same, and there are as many steps, arguments and tokens. -/
  agree : PlansAgree (fun c _ _ => c ∈ cs) p q
  /-- What corrections name is not the same. -/
  mem_iff : ∀ c, c ∈ cs ↔ c.value? p ≠ c.value? q
  eq_nil_iff : cs = [] ↔ q = p
  /-- Each correction is shown once, and its text tells which one it is. -/
  nodup : (cs.map Correction.text).Nodup
  told : ∀ c ∈ cs, ∀ d, d.text = c.text → d = c
  counted : ∀ slip n, (slip, n) ∈ counts ↔ 0 < n ∧ n = timesNamed slip (cs.map Correction.text)
  sum : (counts.map Prod.snd).sum = cs.length

/-- **A repaired plan is not repaired again, and the corrections are a full account of what was
changed.** -/
theorem repair_accounts (p : Json) : repair (repair p).1 = ((repair p).1, []) ∧
    Accounts p (repair p).1 (repair p).2 (histogram (repair p).2) := by
  have hmended := planMended_repair p
  have hagree : PlansAgree (fun c _ _ => c ∈ (repair p).2) p (repair p).1 :=
    PlansAgree.imp (fun _ _ _ => And.left) hmended.agree
  refine ⟨repair_repair p, hagree, mem_repair_iff p, ⟨fun hnil => ?_, fun heq => ?_⟩, ?_, ?_,
    fun _ _ => mem_histogram_iff, sum_histogram _⟩
  · refine (hagree.eq_of_forall_not fun c _ _ hc => ?_).symm
    rw [hnil] at hc
    cases hc
  · refine List.eq_nil_iff_forall_not_mem.mpr fun c hc => ?_
    exact (mem_repair_iff p c).mp hc (by rw [heq])
  · exact hmended.nodup.map fun _ _ => Correction.text_injective
  · exact fun _ _ _ => Correction.text_injective

end MovePlan.Plan
