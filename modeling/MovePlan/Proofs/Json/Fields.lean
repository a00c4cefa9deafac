import Mathlib.Data.List.Forall2
import MovePlan.Json.Basic

/-!
# Values that agree but for some of their parts

Two objects agree but for the fields that a relation is about: they have the same keys in the same
order, and a field has the same value in both or two values that are related (`FieldsAgree`). So do
two arrays of the same length (`ItemsAgree`). Setting a field of an object makes a difference at that
field only, and differences one after the other are joined (`Joins`).
-/

namespace MovePlan.Json

/-- The item at a place of an array; none for other values. -/
def item? (i : Nat) (j : Json) : Option Json := j.items?.bind (·[i]?)

variable {R S T : String → Json → Json → Prop} {fs gs hs : Fields} {key : String} {v w : Json}

/-- A field that has a value other than null is there. -/
theorem field?_of_getD (h : (field? key fs).getD null = v) (hv : v ≠ null) :
    field? key fs = some v := by
  cases hf : field? key fs with
  | none => rw [hf] at h; exact absurd h.symm hv
  | some w => rw [hf] at h; exact congrArg some h

/-- A field that is there is what is got under its key. -/
theorem get_of_field? (h : field? key fs = some v) : (obj fs).get key = v := by
  rw [get, get?, h, Option.getD_some]

theorem eq_str_of_text? {s : String} (h : v.text? = some s) : v = str s := by
  cases v with
  | str t => exact congrArg str (Option.some.inj h)
  | _ => cases h

/-- Setting a field to the value that it has. -/
theorem setField_of_field? (h : field? key fs = some v) : setField key v fs = fs := by
  induction fs with
  | nil => cases h
  | cons f rest ih =>
    obtain ⟨k, x⟩ := f
    by_cases hk : k = key
    · rw [field?, if_pos hk, Option.some.injEq] at h
      rw [setField, if_pos hk, h]
    · rw [field?, if_neg hk] at h
      rw [setField, if_neg hk, ih h]

/-- Whether one relation holds where the first or the second of two others does, or both do one after
the other. -/
structure Joins {ι : Type} (R S T : ι → Json → Json → Prop) : Prop where
  left : ∀ i v w, R i v w → T i v w
  right : ∀ i v w, S i v w → T i v w
  trans : ∀ i u v w, R i u v → S i v w → T i u w

/-! ## Values that may be missing -/

/-- Whether two values are missing or equal, or are related. -/
def OptionsAgree (R : Json → Json → Prop) (a b : Option Json) : Prop :=
  a = b ∨ ∃ v w, a = some v ∧ b = some w ∧ R v w

theorem OptionsAgree.bind {R S : Json → Json → Prop} {a b : Option Json} {f : Json → Option Json}
    (h : OptionsAgree R a b) (hf : ∀ v w, R v w → OptionsAgree S (f v) (f w)) :
    OptionsAgree S (a.bind f) (b.bind f) := by
  rcases h with rfl | ⟨v, w, rfl, rfl, hvw⟩
  · exact Or.inl rfl
  · exact hf v w hvw

/-- Values that agree in a narrower sense agree in a wider one. -/
theorem OptionsAgree.imp {R S : Json → Json → Prop} {a b : Option Json} (h : OptionsAgree R a b)
    (hRS : ∀ v w, R v w → S v w) : OptionsAgree S a b :=
  h.imp_right fun ⟨v, w, ha, hb, hvw⟩ => ⟨v, w, ha, hb, hRS v w hvw⟩

/-- With null in place of a missing value, two that agree are the same or related. -/
theorem OptionsAgree.getD {R : Json → Json → Prop} {a b : Option Json} (h : OptionsAgree R a b) :
    a.getD null = b.getD null ∨ R (a.getD null) (b.getD null) := by
  rcases h with rfl | ⟨v, w, rfl, rfl, hvw⟩
  · exact Or.inl rfl
  · exact Or.inr hvw

/-! ## Fields -/

/-- Whether two lists of fields have the same keys in the same order, and each field the same value in
both or two values that are related. -/
def FieldsAgree (R : String → Json → Json → Prop) : Fields → Fields → Prop :=
  List.Forall₂ fun f g => f.1 = g.1 ∧ (f.2 = g.2 ∨ R f.1 f.2 g.2)

/-- Whether two values are equal, or objects whose fields agree but where they are related. -/
def ObjectsAgree (R : String → Json → Json → Prop) : Json → Json → Prop
  | obj fs, obj gs => FieldsAgree R fs gs
  | v, w => v = w

namespace FieldsAgree

/-- Fields agree with themselves, whatever may differ. -/
theorem refl (fs : Fields) : FieldsAgree R fs fs :=
  List.forall₂_same.mpr fun _ _ => ⟨rfl, Or.inl rfl⟩

theorem imp (hRS : ∀ key v w, R key v w → S key v w) (h : FieldsAgree R fs gs) :
    FieldsAgree S fs gs :=
  List.Forall₂.imp (fun _ _ hfg => ⟨hfg.1, hfg.2.imp_right (hRS _ _ _)⟩) h

/-- Two differences, one after the other, are one if the relations can be joined. -/
theorem trans (hT : Joins R S T) (h : FieldsAgree R fs gs) (h' : FieldsAgree S gs hs) :
    FieldsAgree T fs hs := by
  induction h generalizing hs with
  | nil => cases h'; exact .nil
  | cons hfg _ ih =>
    cases h' with
    | cons hgh hrest =>
      obtain ⟨hkey, hfg⟩ := hfg
      obtain ⟨hkey', hgh⟩ := hgh
      refine .cons ⟨hkey.trans hkey', ?_⟩ (ih hrest)
      rw [← hkey] at hgh
      rcases hfg with hfg | hfg
      · rw [hfg]
        exact hgh.imp_right (hT.right _ _ _)
      · rcases hgh with hgh | hgh
        · rw [← hgh]
          exact Or.inr (hT.left _ _ _ hfg)
        · exact Or.inr (hT.trans _ _ _ _ hfg hgh)

/-- The first field has a partner with its key, and the others agree with the others. -/
theorem exists_cons (h : FieldsAgree R ((key, v) :: fs) hs) :
    ∃ w gs, hs = (key, w) :: gs ∧ (v = w ∨ R key v w) ∧ FieldsAgree R fs gs := by
  cases h with
  | @cons _ g _ gs hfg hrest =>
    obtain ⟨k, w⟩ := g
    obtain ⟨rfl, hvw⟩ := hfg
    exact ⟨w, gs, rfl, hvw, hrest⟩

/-- To set a field is to differ there. -/
theorem setField (h : field? key fs = some v) (hR : R key v w) :
    FieldsAgree R fs (setField key w fs) := by
  induction fs with
  | nil => cases h
  | cons f rest ih =>
    obtain ⟨k, x⟩ := f
    by_cases hk : k = key
    · subst hk
      rw [field?, if_pos rfl, Option.some.injEq] at h
      rw [Json.setField, if_pos rfl]
      exact .cons ⟨rfl, Or.inr (h ▸ hR)⟩ (refl rest)
    · rw [field?, if_neg hk] at h
      rw [Json.setField, if_neg hk]
      exact .cons ⟨rfl, Or.inl rfl⟩ (ih h)

/-- Where fields agree, a key has the same value in both, or two related ones. -/
theorem field? (h : FieldsAgree R fs gs) (key : String) :
    OptionsAgree (R key) (field? key fs) (field? key gs) := by
  induction h with
  | nil => exact Or.inl rfl
  | @cons f g _ _ hfg _ ih =>
    obtain ⟨k, v⟩ := f
    obtain ⟨k', w⟩ := g
    obtain ⟨rfl, hvw⟩ := hfg
    by_cases hk : k = key
    · subst hk
      rcases hvw with rfl | hvw
      · exact Or.inl (by simp [Json.field?])
      · exact Or.inr ⟨v, w, by simp [Json.field?], by simp [Json.field?], hvw⟩
    · simpa [Json.field?, hk] using ih

/-- Where nothing may differ, the fields are the same. -/
theorem eq (h : FieldsAgree R fs gs) (hR : ∀ f ∈ fs, ∀ w, ¬ R f.1 f.2 w) : fs = gs := by
  induction h with
  | nil => rfl
  | @cons f g _ _ hfg _ ih =>
    rw [ih fun f hf => hR f (List.mem_cons_of_mem _ hf)]
    obtain ⟨hkey, hvalue | hrel⟩ := hfg
    · rw [Prod.ext hkey hvalue]
    · exact absurd hrel (hR f List.mem_cons_self g.2)

/-- Where only equal values are related, fields that agree are equal. -/
theorem eq_of_imp (h : FieldsAgree R fs gs) (hR : ∀ key v w, R key v w → v = w) : fs = gs := by
  induction h with
  | nil => rfl
  | cons hfg _ ih =>
    obtain ⟨hkey, hvalue⟩ := hfg
    rw [ih, Prod.ext hkey (hvalue.elim id (hR _ _ _))]

end FieldsAgree

/-- A value that agrees with an object is an object. -/
theorem ObjectsAgree.exists_obj (h : ObjectsAgree R (obj fs) w) :
    ∃ gs, w = obj gs ∧ FieldsAgree R fs gs := by
  cases w with
  | obj gs => exact ⟨gs, rfl, h⟩
  | _ => cases h

theorem ObjectsAgree.refl (v : Json) : ObjectsAgree R v v := by
  cases v with
  | obj fs => exact FieldsAgree.refl fs
  | _ => rfl

/-- To set a field of an object is to differ there. -/
theorem ObjectsAgree.setField (h : field? key fs = some v) (hR : R key v w) :
    ObjectsAgree R (obj fs) (obj (setField key w fs)) :=
  FieldsAgree.setField h hR

theorem ObjectsAgree.imp (hRS : ∀ key v w, R key v w → S key v w) (h : ObjectsAgree R v w) :
    ObjectsAgree S v w := by
  cases v with
  | obj fs =>
    cases w with
    | obj gs => exact FieldsAgree.imp hRS h
    | _ => cases h
  | _ => cases h; exact refl _

/-- If related values are the same, so are the objects. -/
theorem ObjectsAgree.eq_of_imp (h : ObjectsAgree R v w) (hR : ∀ key v w, R key v w → v = w) :
    v = w := by
  cases v with
  | obj fs =>
    obtain ⟨gs, rfl, hfields⟩ := h.exists_obj
    rw [hfields.eq_of_imp hR]
  | _ => exact h

theorem ObjectsAgree.trans {u : Json} (hT : Joins R S T) (h : ObjectsAgree R u v)
    (h' : ObjectsAgree S v w) : ObjectsAgree T u w := by
  cases u with
  | obj fs =>
    obtain ⟨gs, rfl, hfg⟩ := h.exists_obj
    obtain ⟨hs, rfl, hgh⟩ := h'.exists_obj
    exact hfg.trans hT hgh
  | _ => cases h; exact h'.imp hT.right

/-- Under each key, the values of two objects that agree do. -/
theorem ObjectsAgree.get? (h : ObjectsAgree R v w) (key : String) :
    OptionsAgree (R key) (v.get? key) (w.get? key) := by
  cases v with
  | obj fs =>
    cases w with
    | obj gs => exact FieldsAgree.field? h key
    | _ => cases h
  | _ => cases h; exact Or.inl rfl

theorem ObjectsAgree.get (h : ObjectsAgree R v w) (key : String) :
    v.get key = w.get key ∨ R key (v.get key) (w.get key) := (h.get? key).getD

theorem ObjectsAgree.fields? (h : ObjectsAgree R v w) :
    Option.Rel (FieldsAgree R) v.fields? w.fields? := by
  cases v with
  | obj fs =>
    obtain ⟨gs, rfl, hfields⟩ := h.exists_obj
    exact .some hfields
  | _ => cases h; exact .none

/-- Only objects agree with objects. -/
theorem ObjectsAgree.isObject_eq (h : ObjectsAgree R v w) : v.isObject = w.isObject := by
  cases v with
  | obj fs =>
    obtain ⟨gs, rfl, -⟩ := h.exists_obj
    rfl
  | _ => cases h; rfl

/-- A field in front, the same in both or related, is one more place to agree in. -/
theorem objectsAgree_cons (h : v = w ∨ R key v w) (hrest : ObjectsAgree R (obj fs) (obj gs)) :
    ObjectsAgree R (obj ((key, v) :: fs)) (obj ((key, w) :: gs)) :=
  List.Forall₂.cons ⟨rfl, h⟩ hrest

theorem objectsAgree_singleton (h : R key v w) : ObjectsAgree R (obj [(key, v)]) (obj [(key, w)]) :=
  objectsAgree_cons (Or.inr h) (.refl _)

/-! ## Items -/

/-- Whether two values are equal, or arrays of one length whose items are related. -/
def ItemsAgree (R : Nat → Json → Json → Prop) : Json → Json → Prop
  | arr xs, arr ys =>
    xs.length = ys.length ∧ ∀ i x y, xs[i]? = some x → ys[i]? = some y → R i x y
  | v, w => v = w

/-- A value that agrees with an array is an array. -/
theorem ItemsAgree.exists_arr {R : Nat → Json → Json → Prop} {xs : List Json}
    (h : ItemsAgree R (arr xs) w) :
    ∃ ys, w = arr ys ∧ xs.length = ys.length ∧
      ∀ i x y, xs[i]? = some x → ys[i]? = some y → R i x y := by
  cases w with
  | arr ys => exact ⟨ys, rfl, h⟩
  | _ => cases h

/-- Lists that agree have related members at each place. -/
theorem ItemsAgree.forall₂ {R : Json → Json → Prop} {xs ys : List Json}
    (h : ItemsAgree (fun _ => R) (arr xs) (arr ys)) : List.Forall₂ R xs ys := by
  obtain ⟨hlen, hitems⟩ := h
  exact List.forall₂_of_length_eq_of_get hlen fun i hi hi' =>
    hitems i _ _ (List.getElem?_eq_getElem hi) (List.getElem?_eq_getElem hi')

/-- A list agrees with itself if every value is related to itself. -/
theorem ItemsAgree.refl {R : Nat → Json → Json → Prop} (hR : ∀ i v, R i v v) (v : Json) :
    ItemsAgree R v v := by
  cases v with
  | arr xs =>
    refine ⟨rfl, fun i x y hx hy => ?_⟩
    obtain rfl := Option.some.inj (hx.symm.trans hy)
    exact hR i x
  | _ => rfl

theorem ItemsAgree.nil {R : Nat → Json → Json → Prop} : ItemsAgree R (arr []) (arr []) :=
  ⟨rfl, fun _ _ _ hx => nomatch hx⟩

/-- A member in front of both is the first place, and the others move on by one. -/
theorem ItemsAgree.cons {R : Nat → Json → Json → Prop} {xs ys : List Json} (h : R 0 v w)
    (hrest : ItemsAgree (fun i => R (i + 1)) (arr xs) (arr ys)) :
    ItemsAgree R (arr (v :: xs)) (arr (w :: ys)) := by
  refine ⟨congrArg (· + 1) hrest.1, fun i x y hx hy => ?_⟩
  cases i with
  | zero => cases hx; cases hy; exact h
  | succ i => exact hrest.2 i x y hx hy

theorem ItemsAgree.imp {R S : Nat → Json → Json → Prop} (hRS : ∀ i v w, R i v w → S i v w)
    (h : ItemsAgree R v w) : ItemsAgree S v w := by
  cases v with
  | arr xs =>
    cases w with
    | arr ys => exact ⟨h.1, fun i x y hx hy => hRS i x y (h.2 i x y hx hy)⟩
    | _ => cases h
  | _ => cases h; rfl

/-- If related members are the same, so are the lists. -/
theorem ItemsAgree.eq_of_imp {R : Nat → Json → Json → Prop} (h : ItemsAgree R v w)
    (hR : ∀ i v w, R i v w → v = w) : v = w := by
  cases v with
  | arr xs =>
    obtain ⟨ys, rfl, hlen, hitems⟩ := h.exists_arr
    refine congrArg arr (List.ext_getElem hlen fun i hi hi' => ?_)
    exact hR i _ _ (hitems i _ _ (List.getElem?_eq_getElem hi) (List.getElem?_eq_getElem hi'))
  | _ => exact h

/-- Lists that agree with one between them agree, if the relations can be joined. -/
theorem ItemsAgree.trans {R S T : Nat → Json → Json → Prop} {u : Json} (hT : Joins R S T)
    (h : ItemsAgree R u v) (h' : ItemsAgree S v w) : ItemsAgree T u w := by
  cases u with
  | arr xs =>
    obtain ⟨ys, rfl, hlen, hxy⟩ := h.exists_arr
    obtain ⟨zs, rfl, hlen', hyz⟩ := h'.exists_arr
    refine ⟨hlen.trans hlen', fun i x z hx hz => ?_⟩
    obtain ⟨hi, -⟩ := List.getElem?_eq_some_iff.mp hx
    rw [hlen] at hi
    have hy : ys[i]? = some ys[i] := List.getElem?_eq_getElem hi
    exact hT.trans i _ _ _ (hxy i _ _ hx hy) (hyz i _ _ hy hz)
  | _ => cases h; exact h'.imp hT.right

/-- At each place, the members of two lists that agree do. -/
theorem ItemsAgree.item? {R : Nat → Json → Json → Prop} (h : ItemsAgree R v w) (i : Nat) :
    OptionsAgree (R i) (v.item? i) (w.item? i) := by
  cases v with
  | arr xs =>
    cases w with
    | arr ys =>
      obtain ⟨hlen, hR⟩ := h
      rcases Nat.lt_or_ge i xs.length with hi | hi
      · exact Or.inr ⟨xs[i], ys[i], by simp [Json.item?, items?, hi],
          by simp [Json.item?, items?, hlen ▸ hi], hR i _ _ (by simp [hi]) (by simp [hlen ▸ hi])⟩
      · exact Or.inl (by simp [Json.item?, items?, hi, hlen ▸ hi])
    | _ => cases h
  | _ => cases h; exact Or.inl rfl

end MovePlan.Json
