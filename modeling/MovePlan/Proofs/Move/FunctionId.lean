import MovePlan.Graph.Basic
import MovePlan.Proofs.Move.Forms

/-!
# The language of function ids

A function id is an address and two names with double colons between them. Each part may have a line feed
after it: with that, the reading of function ids takes exactly the texts of the language, and gives the three
parts (`functionOf_spells`). Without, it takes more (`functionOf_spells_more`).
-/

namespace MovePlan.Move

open Text

/-- Whether a text is an address and two names with double colons between them, each perhaps with one of
the given tails. -/
structure Spells (tails : List (List Char)) (s a m f : String) : Prop where
  text : s = a ++ "::" ++ m ++ "::" ++ f
  address : Followed tails IsAddress a.toList
  module : Followed tails IsName m.toList
  function : Followed tails IsName f.toList

theorem FunctionId.parse_eq_ok_iff {s : String} {id : FunctionId} : parse s = .ok id ↔ id.text = s := by
  constructor
  · intro h
    have hjoin := joinPath_splitPath s.toList
    unfold parse parseChars at h
    split at h
    · next a m f hsplit =>
      rw [hsplit] at hjoin
      split at h
      · split at h
        · split at h
          · cases h
            refine String.toList_inj.mp ?_
            rw [toList_text, ← hjoin]
            simp [joinPath]
          · cases h
        · cases h
      · cases h
    · cases h
  · rintro rfl
    exact parse_text id

theorem functionOf_str_eq_ok_iff {s : String} {id : FunctionId} :
    StepGraph.functionOf (.str s) = .ok id ↔ id.text = s := by
  rw [← FunctionId.parse_eq_ok_iff, StepGraph.functionOf]
  split
  · next id' hid => rw [hid, Except.ok.injEq, Except.ok.injEq]
  · next fault hfault => simp [hfault]

theorem functionOf_str_cases (s : String) : (∃ id, StepGraph.functionOf (.str s) = .ok id) ∨
    ∃ reason, StepGraph.functionOf (.str s) = .error (.malformedFunctionId s reason) := by
  rw [StepGraph.functionOf]
  split
  · exact Or.inl ⟨_, rfl⟩
  · exact Or.inr ⟨_, rfl⟩

/-- **The reading of function ids takes exactly the texts of the language**, a line feed after each part being
passed over; the id has the three parts and the text, and every other text is named in an error. -/
theorem functionOf_spells (s : String) :
    (∀ a m f, (∃ id, StepGraph.functionOf (.str s) = .ok id ∧ id.address = a ∧ id.module = m ∧
      id.function = f) ↔ Spells partTails s a m f) ∧
    ((∃ id, StepGraph.functionOf (.str s) = .ok id ∧ id.text = s) ∨
      ∃ reason, StepGraph.functionOf (.str s) = .error (.malformedFunctionId s reason)) := by
  constructor
  · intro a m f
    constructor
    · rintro ⟨id, hid, rfl, rfl, rfl⟩
      exact ⟨(functionOf_str_eq_ok_iff.mp hid).symm, isWellFormed_iff.mp id.isWellFormed_address,
        isIdentifier_iff.mp id.isIdentifier_module, isIdentifier_iff.mp id.isIdentifier_function⟩
    · rintro ⟨htext, ha, hm, hf⟩
      exact ⟨⟨a, m, f, isWellFormed_iff.mpr ha, isIdentifier_iff.mpr hm, isIdentifier_iff.mpr hf⟩,
        functionOf_str_eq_ok_iff.mpr htext.symm, rfl, rfl, rfl⟩
  · exact (functionOf_str_cases s).imp_left fun ⟨id, hid⟩ =>
      ⟨id, hid, functionOf_str_eq_ok_iff.mp hid⟩

/-- Without the line feeds that may follow its parts, a function id has none. -/
theorem lineFeed_not_mem_of_spells {s a m f : String} (h : Spells [[]] s a m f) : '\n' ∉ s.toList := by
  have hname : ∀ t, Followed [[]] IsName t → '\n' ∉ t := by
    rintro _ ⟨_, ⟨hstart, hrest⟩, tail, htail, rfl⟩
    rw [List.mem_singleton.mp htail, List.append_nil, List.mem_cons, not_or]
    exact ⟨fun hc => absurd (hc ▸ hstart) (by decide), fun hm => absurd (hrest _ hm) (by decide)⟩
  have haddress : '\n' ∉ a.toList := by
    obtain ⟨_, ⟨hhex, -, -⟩, tail, htail, ha⟩ := h.address
    rw [ha, List.mem_singleton.mp htail]
    simpa using fun hm => absurd (hhex _ hm) (by decide)
  have hmodule := hname _ h.module
  have hfunction := hname _ h.function
  rw [h.text]
  simp [haddress, hmodule, hfunction]

/-- The text of a function id in which the name of the module has a line feed after it. -/
def brokenId : String := "0x1::coin\n::transfer"

/-- Without line feeds after its parts the language is smaller. -/
theorem functionOf_spells_more : ¬ ∀ s, (∃ id, StepGraph.functionOf (.str s) = .ok id) ↔
    ∃ a m f, Spells [[]] s a m f := by
  intro h
  obtain ⟨a, m, f, hspells⟩ := (h brokenId).mp ⟨_, rfl⟩
  exact lineFeed_not_mem_of_spells hspells (by decide)

end MovePlan.Move
