import MovePlan.Proofs.Plan.Readable
import MovePlan.Proofs.Plan.RoundTrip
import MovePlan.Proofs.Plan.Stability

/-!
# The written form is reached in one step

What the decoder gives has a written form, and its literals are their own values: written and read again
it comes back as it is (`decode_encode_of_isSettled`). Of what is written no field has a slip
(`repair_encode`). So a plan that is repaired, decoded and written once has the form that every later
round leaves alone (`recode_reaches_canonical`).
-/

namespace MovePlan

open Move Graph Json Error

/-- Whether an argument has a written form that is read back as the argument itself. -/
structure Graph.Arg.IsSettled (a : Arg) : Prop where
  isWritable : a.IsWritable
  readsAs : a.ReadsAs a

/-- Whether a step has a written form that is read back as the step itself. -/
structure Graph.Step.IsSettled (s : Step) : Prop where
  typeArguments : ∀ t ∈ s.typeArguments, t.text?.isSome = true
  args : ∀ a ∈ s.args, a.IsSettled

def StepGraph.IsSettled (g : StepGraph) : Prop := ∀ s ∈ g.steps, s.IsSettled

theorem Graph.Step.IsSettled.isWritable {s : Step} (h : s.IsSettled) : s.IsWritable :=
  ⟨h.typeArguments, fun a ha => (h.args a ha).isWritable⟩

theorem StepGraph.IsSettled.isWritable {g : StepGraph} (h : g.IsSettled) : g.IsWritable :=
  fun s hs => (h s hs).isWritable

/-- A graph is its steps. -/
theorem StepGraph.eq_of_steps {g h : StepGraph} (heq : g.steps = h.steps) : g = h := by
  cases g
  cases h
  simp only [StepGraph.mk.injEq]
  exact heq

/-! ## What is read back -/

/-- An argument is read back as one argument only. -/
theorem Graph.Arg.ReadsAs.unique {a b c : Arg} (hb : a.ReadsAs b) (hc : a.ReadsAs c) : b = c := by
  cases hb with
  | signer => cases hc; rfl
  | literal h =>
    cases hc with
    | literal h' => rw [Except.ok.inj (h.symm.trans h')]
  | ref r => cases hc; rfl

/-- Where each item of a list is related to itself only, so is the list. -/
theorem eq_of_forall₂ {α : Type} {R : α → α → Prop} {as bs : List α} (h : List.Forall₂ R as bs)
    (hR : ∀ a ∈ as, ∀ b, R a b → b = a) : bs = as := by
  induction h with
  | nil => rfl
  | cons hab _ ih =>
    rw [hR _ List.mem_cons_self _ hab, ih fun a ha => hR a (List.mem_cons_of_mem _ ha)]

theorem Graph.Step.IsSettled.eq {s t : Step} (hs : s.IsSettled) (h : s.ReadsAs t) : t = s := by
  have hargs : t.args = s.args :=
    eq_of_forall₂ h.args fun a ha _ hab => hab.unique (hs.args a ha).readsAs
  cases s
  cases t
  simp only [Step.mk.injEq]
  exact ⟨h.label, h.function, h.typeArguments, hargs⟩

namespace Plan

variable {path : String} {j : Json}

/-! ## What is decoded is settled -/

/-- A text stands for an integer or for itself. -/
theorem decodeLiteral_text {s : String} {value : Json} (h : decodeLiteral (.str s) = .ok value) :
    (∃ n : Nat, value = .nat n) ∨ value = .str s := by
  cases Literal.decodeLiteral_eq_iff.mp h with
  | integer => exact Or.inl ⟨_, rfl⟩
  | self => exact Or.inr rfl

/-- The value of a literal that is read is its own value. -/
theorem isSettled_of_literalReads {value : Json} (hj : IsReadable j) (h : LiteralReads j value) :
    (Arg.literal value).IsSettled := by
  have hint : ∀ n, value = .int n → (Arg.literal value).IsSettled := by
    rintro n rfl
    exact ⟨.int (hasText_of_literalReads hj h), .literal rfl⟩
  cases h with
  | text h =>
    rcases decodeLiteral_text h with ⟨n, rfl⟩ | rfl
    · exact hint n rfl
    · exact ⟨.text h, .literal h⟩
  | bool b => exact ⟨.bool b, .literal rfl⟩
  | int | float => exact hint _ rfl

theorem isSettled_of_argReads {a : Arg} (hj : IsReadable j) (h : ArgReads j a) : a.IsSettled := by
  cases h with
  | signer => exact ⟨.signer, .signer⟩
  | literal _ hvalue hv => exact isSettled_of_literalReads (hj.of_field? hvalue) hv
  | ref _ _ hs => exact ⟨.ref hs, .ref _⟩

theorem isWritable_of_tokenReads {t : Token} (h : TokenReads j t) : t.IsWritable := by
  cases h with
  | token _ hs _ hm _ => exact ⟨hs, hm, Int.natCast_nonneg _⟩

theorem forall_of_forall₂ {α β : Type} {R : α → β → Prop} {P : β → Prop} {as : List α} {bs : List β}
    (h : List.Forall₂ R as bs) (hP : ∀ a ∈ as, ∀ b, R a b → P b) : ∀ b ∈ bs, P b := by
  induction h with
  | nil => simp
  | cons hab _ ih =>
    obtain ⟨hfirst, hrest⟩ := List.forall_mem_cons.mp hP
    exact List.forall_mem_cons.mpr ⟨hfirst _ hab, ih hrest⟩

theorem isWritable_of_tokensRead {tokens : List Token} (h : TokensRead j tokens) :
    ∀ t ∈ tokens, t.IsWritable := by
  cases h with
  | null => simp
  | list h => exact forall_of_forall₂ h fun _ _ _ => isWritable_of_tokenReads

theorem TypesRead.texts {types : List Json} (h : TypesRead NotGiven j types) :
    ∀ t ∈ types, t.text?.isSome = true := by
  cases h with
  | unset => simp
  | list ts => simp [Json.text?]

theorem isSettled_of_stepReads {s : Step} (hj : IsReadable j) (h : StepReads NotGiven j s) :
    s.IsSettled := by
  cases h with
  | step _ _ _ _ htypes hxs hargs =>
    have hitems := isReadable_arr_iff.mp (hj.of_field? hxs)
    exact ⟨htypes.texts, forall_of_forall₂ hargs fun x hx _ => isSettled_of_argReads (hitems x hx)⟩

/-! ## What is settled comes back -/

/-- **A settled graph is read back as it is.** -/
theorem decode_encode_of_isSettled {g : StepGraph} {tokens : List Token} (hg : g.IsSettled)
    (ht : ∀ t ∈ tokens, t.IsWritable) : decode (encode g tokens) = .ok ⟨g, tokens⟩ := by
  obtain ⟨graph, added, hgraph, hsteps, hreads⟩ := exists_decodeSteps_eq_ok (g := .empty)
    hg.isWritable g.label_ne_empty g.nodup_labels 0
  have hadded : added = g.steps := eq_of_forall₂ hreads fun s hs _ => (hg s hs).eq
  obtain rfl : graph = g := StepGraph.eq_of_steps (hsteps.trans hadded)
  obtain ⟨fields, hfields⟩ : ∃ fields, encode graph tokens = .obj fields := by
    unfold encode
    split <;> exact ⟨_, rfl⟩
  exact decode_eq_ok_iff.mpr ⟨fields, _, tokens, graph, hfields, steps_encode graph tokens,
    decodeTokens_encode graph ht, hgraph, rfl⟩

/-! ## What is written has no slips -/

/-- A written list is left as it is if its items are. -/
theorem repairList_of_map {α : Type} {encode : α → Json} {xs : List α} {key : String}
    {repair : Nat → Json → Json × List Correction} {fields : Fields}
    (hfields : valueOfField fields key = .arr (xs.map encode))
    (h : ∀ i, ∀ x ∈ xs, repair i (encode x) = (encode x, [])) :
    repairList key repair fields = (fields, []) := by
  refine repairList_of_forall fun ys hys i y hy => ?_
  obtain rfl := Json.arr.inj (hfields.symm.trans hys)
  obtain ⟨x, hx, rfl⟩ := List.mem_map.mp hy
  exact h i x hx

theorem repairArgAt_encodeArg {a : Arg} (ha : a.IsWritable) (place : Place) :
    repairArgAt place (encodeArg a) = (encodeArg a, []) := by
  obtain ⟨b, hb, -⟩ := exists_argReads ha
  obtain ⟨fields, hfields, hform⟩ := hb.exists_argForm
  rw [hfields]
  exact repairArgAt_of_argForm hform place

theorem repairHead_of_written {fields : Fields} {id : FunctionId} {types : List Json}
    (hfunction : field? "function" fields = some (.str id.text))
    (htypes : field? "typeArguments" fields = some (.arr types)) :
    repairHead fields = .none fields := by
  rw [repairHead_eq, mendFunction_of_parse hfunction (functionOf_text id)]
  refine mend_eq_self fun v hv => ?_
  rw [← Option.some.inj (htypes.symm.trans hv)]
  rfl

theorem repairStep_encodeStep {s : Step} (hs : s.IsWritable) (i : Nat) :
    repairStep i (encodeStep s) = (encodeStep s, []) := by
  rw [encodeStep, repairStep_obj, repairHead_of_written rfl rfl, Repaired.none, repairArgs,
    repairList_of_map rfl fun j a ha => repairArgAt_encodeArg (hs.args a ha) (.arg i j)]
  rfl

theorem repairToken_toJson (t : Token) (i : Nat) : repairToken i t.toJson = (t.toJson, []) :=
  repairToken_of_decimals (n := t.decimals) rfl i

/-- **Nothing is repaired in what is written.** -/
theorem repair_encode {g : StepGraph} (hg : g.IsWritable) (tokens : List Token) :
    repair (encode g tokens) = (encode g tokens, []) := by
  have hsteps : ∀ fields, valueOfField fields "steps" = .arr (g.steps.map encodeStep) →
      repairList "steps" repairStep fields = (fields, []) := fun fields hfields =>
    repairList_of_map hfields fun i s hs => repairStep_encodeStep (hg s hs) i
  unfold encode
  split
  · exact repair_of_repairList (hsteps _ rfl) rfl
  · exact repair_of_repairList (hsteps _ rfl)
      (repairList_of_map rfl fun i t _ => repairToken_toJson t i)

/-! ## Recoding -/

/-- What is decoded has a written form that is read back as it is. -/
theorem settled_of_decode {j : Json} {doc : Document} (hj : IsReadable j)
    (h : decode j = .ok doc) : doc.graph.IsSettled ∧ ∀ t ∈ doc.tokens, t.IsWritable := by
  obtain ⟨htokens, hxs, hsteps, -⟩ := planReads_of_decode h
  have hitems := isReadable_arr_iff.mp (hj.of_field? hxs)
  exact ⟨forall_of_forall₂ hsteps fun x hx _ => isSettled_of_stepReads (hitems x hx),
    isWritable_of_tokensRead htokens⟩

/-- **A plan that a text says, once it is repaired, decoded and written, is in the form that all later rounds
keep**: it has no slips, it is decoded to the same document, and that is written as it is. -/
theorem recode_reaches_canonical {p : Json} {doc : Document} (hp : IsReadable p)
    (h : decode (repair p).1 = .ok doc) :
    ∃ q, encode? doc.graph doc.tokens = .ok q ∧ repair q = (q, []) ∧
      ∃ again, decode q = .ok again ∧ again = doc ∧ encode? again.graph again.tokens = .ok q := by
  obtain ⟨hgraph, htokens⟩ := settled_of_decode (isReadable_repair hp) h
  have hq := encode?_of_isWritable hgraph.isWritable doc.tokens
  exact ⟨_, hq, repair_encode hgraph.isWritable doc.tokens, doc,
    decode_encode_of_isSettled hgraph htokens, rfl, hq⟩

/-- A plan that leaves much open: a number with a point, digits of another script, leading zeros, no mode,
no type arguments. -/
def sloppy : Json :=
  .obj [("steps", .arr [
    .obj [("args", .arr [.obj [("kind", .str " Signer ")],
        .obj [("kind", .str "literal"), ("value", .float (.ofInt 3))],
        .obj [("kind", .str "literal"), ("value", .str "007n")],
        .obj [("kind", .str "literal"), ("value", .str "٤٢n")]]),
      ("function", .str "b2::vault::take"), ("label", .str "take"), ("typeArguments", .null)],
    .obj [("label", .str "give"), ("function", .str "0xb2::vault::give"), ("note", .bool true),
      ("args", .arr [.obj [("kind", .str "ref"), ("step", .str "take"),
        ("returnIndex", .str " 0")]])]])]

/-- What it is written as. -/
def tidy : Json :=
  .obj [("steps", .arr [
    .obj [("label", .str "take"), ("function", .str "0xb2::vault::take"), ("typeArguments", .arr []),
      ("args", .arr [.obj [("kind", .str "signer")],
        .obj [("kind", .str "literal"), ("value", .str "3n")],
        .obj [("kind", .str "literal"), ("value", .str "7n")],
        .obj [("kind", .str "literal"), ("value", .str "42n")]])],
    .obj [("label", .str "give"), ("function", .str "0xb2::vault::give"), ("typeArguments", .arr []),
      ("args", .arr [.obj [("kind", .str "ref"), ("step", .str "take"),
        ("returnIndex", .int 0), ("mode", .str "move")]])]])]

theorem isReadable_sloppy : IsReadable sloppy := by
  simp [sloppy, Numeric.Binary64.ofInt, Numeric.Binary64.isProper_ofQuotient]

theorem recode_reaches_canonical_sloppy : IsReadable sloppy ∧
    ∃ doc, decode (repair sloppy).1 = .ok doc ∧ encode? doc.graph doc.tokens = .ok tidy ∧ repair tidy = (tidy, []) ∧ decode tidy = .ok doc := by
  obtain ⟨doc, hdoc, htidy⟩ : ∃ doc, decode (repair sloppy).1 = .ok doc ∧
      encode? doc.graph doc.tokens = .ok tidy := ⟨_, rfl, rfl⟩
  obtain ⟨q, hq, hrepair, again, hagain, rfl, -⟩ := recode_reaches_canonical isReadable_sloppy hdoc
  obtain rfl : q = tidy := Except.ok.inj (hq.symm.trans htidy)
  exact ⟨isReadable_sloppy, again, hdoc, hq, hrepair, hagain⟩

end Plan

end MovePlan
