import MovePlan.Plan.Encode
import MovePlan.Proofs.Graph.Literal
import MovePlan.Proofs.Plan.Grammar
import MovePlan.Proofs.Text.Numeral

/-!
# Written plans are read back

A plan that is written is decoded to the same tokens and to the same steps, in which every literal is
replaced by its value. That is shown from the inside out: literals, arguments, steps, and the graph to
which the steps are added one after the other, their labels being new each time.
-/

namespace MovePlan

open Move Graph Text Numeric Error

/-- Whether an argument has a written form that is read back: a literal is a text with a value, an
integer that has a text, true or false, and a reference names its step. -/
inductive Graph.Arg.IsWritable : Arg → Prop where
  | signer : IsWritable .signer
  | text {s : String} {value : Json} (h : decodeLiteral (.str s) = .ok value) :
    IsWritable (.literal (.str s))
  | int {n : Int} (h : hasText n = true) : IsWritable (.literal (.int n))
  | bool (b : Bool) : IsWritable (.literal (.bool b))
  | ref {r : Ref} (h : r.step ≠ "") : IsWritable (.ref r)

/-- Whether the type arguments of a step are texts and its arguments have written forms. -/
structure Graph.Step.IsWritable (s : Step) : Prop where
  typeArguments : ∀ t ∈ s.typeArguments, t.text?.isSome = true
  args : ∀ a ∈ s.args, a.IsWritable

def StepGraph.IsWritable (g : StepGraph) : Prop := ∀ s ∈ g.steps, s.IsWritable

structure Token.IsWritable (t : Token) : Prop where
  symbol : t.symbol ≠ ""
  metadata : t.metadata ≠ ""
  decimals : 0 ≤ t.decimals

/-- What an argument is read back as: a literal as its value, all else as itself. -/
inductive Graph.Arg.ReadsAs : Arg → Arg → Prop where
  | signer : ReadsAs .signer .signer
  | literal {v value : Json} (h : decodeLiteral v = .ok value) :
    ReadsAs (.literal v) (.literal value)
  | ref (r : Ref) : ReadsAs (.ref r) (.ref r)

/-- What a step is read back as. -/
structure Graph.Step.ReadsAs (s t : Step) : Prop where
  label : t.label = s.label
  function : t.function = s.function
  typeArguments : t.typeArguments = s.typeArguments
  args : List.Forall₂ Arg.ReadsAs s.args t.args

namespace Plan

/-! ## Literals -/

/-- A number with its mark is taken as digits with a mark. -/
theorem bigIntegerDigits?_natText (n : Nat) :
    bigIntegerDigits? (natText n ++ ['n']) = some (natText n, true) :=
  Literal.bigIntegerDigits?_eq_some_iff.mpr
    ⟨⟨natText_ne_nil n, fun _ hc => isDigit_of_ascii (isDigit_of_mem_natText hc)⟩, rfl⟩

/-- The number is read back if it has a text. -/
theorem decodeLiteral_natText {n : Nat} (h : hasText n = true) :
    decodeLiteral (.str (String.ofList (natText n ++ ['n']))) = .ok (.nat n) := by
  have hlimit : ¬ digitLimit < (natText n).length := Nat.not_lt.mpr (of_decide_eq_true h)
  simp [decodeLiteral, bigIntegerDigits?_natText, valueOf_natText, hlimit]

/-- A written literal has a value that is read, and it is the literal's own. -/
theorem exists_literalReads {v : Json} (h : (Arg.literal v).IsWritable) :
    ∃ value, LiteralReads (encodeLiteral v) value ∧ decodeLiteral v = .ok value := by
  cases h with
  | @text s value h => exact ⟨value, .text h, h⟩
  | @int n h =>
    refine ⟨.int n, ?_, rfl⟩
    rw [encodeLiteral]
    -- a negative integer is written as a number, all others as a text
    split
    · next hn =>
      obtain ⟨k, rfl⟩ := Int.eq_ofNat_of_zero_le hn
      rw [intText_natCast]
      exact .text (decodeLiteral_natText h)
    · exact .int n
  | bool b => exact ⟨.bool b, .bool b, rfl⟩

/-! ## Parts -/

/-- A written argument is read. -/
theorem exists_argReads {a : Arg} (ha : a.IsWritable) :
    ∃ b, ArgReads (encodeArg a) b ∧ a.ReadsAs b := by
  cases a with
  | signer => exact ⟨.signer, .signer rfl, .signer⟩
  | literal v =>
    obtain ⟨value, hreads, hv⟩ := exists_literalReads ha
    exact ⟨.literal value, .literal rfl rfl hreads, .literal hv⟩
  | ref r =>
    cases ha with
    | ref h => exact ⟨.ref r, .ref rfl rfl h rfl (.word r.mode), .ref r⟩
  | strayRef | foreign => cases ha

theorem tokenReads_toJson {t : Token} (ht : t.IsWritable) : TokenReads t.toJson t := by
  obtain ⟨symbol, metadata, decimals⟩ := t
  obtain ⟨n, rfl⟩ := Int.eq_ofNat_of_zero_le ht.decimals
  exact .token rfl ht.symbol rfl ht.metadata rfl

/-- If every item is read, so is the list. -/
theorem exists_forall₂_map {α β : Type} {encode : α → Json} {P : Json → β → Prop} {R : α → β → Prop}
    {xs : List α} (h : ∀ x ∈ xs, ∃ y, P (encode x) y ∧ R x y) :
    ∃ ys, List.Forall₂ P (xs.map encode) ys ∧ List.Forall₂ R xs ys := by
  induction xs with
  | nil => exact ⟨[], .nil, .nil⟩
  | cons x rest ih =>
    obtain ⟨⟨y, hy, hR⟩, hrest⟩ := List.forall_mem_cons.mp h
    obtain ⟨ys, hys, hRs⟩ := ih hrest
    exact ⟨y :: ys, .cons hy hys, .cons hR hRs⟩

theorem decodeTokens_toJson {tokens : List Token} (ht : ∀ t ∈ tokens, t.IsWritable) :
    decodeTokens (.arr (tokens.map Token.toJson)) = .ok tokens := by
  refine decodeTokens_eq_ok_iff.mpr (.list ?_)
  rw [List.forall₂_map_left_iff, List.forall₂_same]
  exact fun t hm => tokenReads_toJson (ht t hm)

/-- A function is read back from its text. -/
theorem functionOf_text (id : FunctionId) : StepGraph.functionOf (.str id.text) = .ok id := by
  rw [StepGraph.functionOf, FunctionId.parse_text]

/-- A written step is read. -/
theorem exists_stepReads {s : Step} (hs : s.IsWritable) (hl : s.label ≠ "") :
    ∃ t, StepReads Json.NotGiven (encodeStep s) t ∧ s.ReadsAs t := by
  obtain ⟨args, hargs, hreads⟩ := exists_forall₂_map fun a ha => exists_argReads (hs.args a ha)
  obtain ⟨ts, hts⟩ := exists_texts hs.typeArguments
  have htypes : TypesRead Json.NotGiven (.arr s.typeArguments) s.typeArguments := hts ▸ .list ts
  exact ⟨{ s with args }, .step rfl hl rfl (functionOf_text s.function) htypes rfl hargs,
    ⟨rfl, rfl, rfl, hreads⟩⟩

/-! ## The graph -/

/-- Steps that are written are read back and added to the end of a graph. -/
theorem exists_decodeSteps_eq_ok {steps : List Step} {g : StepGraph}
    (hs : ∀ s ∈ steps, s.IsWritable) (hl : ∀ s ∈ steps, s.label ≠ "")
    (hnd : (g.labels ++ steps.map Step.label).Nodup) (i : Nat) :
    ∃ g' added, decodeSteps i (steps.map encodeStep) g = .ok g' ∧ g'.steps = g.steps ++ added ∧
      List.Forall₂ Step.ReadsAs steps added := by
  obtain ⟨added, hadded, hreads⟩ := exists_forall₂_map fun s hm => exists_stepReads (hs s hm) (hl s hm)
  have hlabels : List.Forall₂ Eq (steps.map Step.label) (added.map Step.label) := by
    rw [List.forall₂_map_left_iff, List.forall₂_map_right_iff]
    exact hreads.imp fun _ _ h => h.label.symm
  rw [List.forall₂_eq_eq_eq] at hlabels
  have hnd : ((g.steps ++ added).map Step.label).Nodup := by rwa [List.map_append, ← hlabels]
  obtain ⟨g', hg', hsteps⟩ := exists_decodeSteps_of_reads hadded hnd i
  exact ⟨g', added, hg', hsteps, hreads⟩

/-! ## Plans -/

/-- Nothing is wrong with an argument that can be written. -/
theorem argFault?_of_isWritable {a : Arg} (ha : a.IsWritable) : argFault? a = none := by
  cases ha with
  | int h => simp [argFault?, h]
  | signer | text | bool | ref => rfl

/-- A graph of such arguments is written as a plan. -/
theorem encode?_of_isWritable {g : StepGraph} (hg : g.IsWritable) (tokens : List Token) :
    encode? g tokens = .ok (encode g tokens) :=
  encode?_eq_ok_iff.mpr ⟨rfl, fun s hs a ha => argFault?_of_isWritable ((hg s hs).args a ha)⟩

theorem steps_encode (g : StepGraph) (tokens : List Token) :
    (encode g tokens).get "steps" = .arr (g.steps.map encodeStep) := by
  unfold encode
  split <;> rfl

theorem decodeTokens_encode (g : StepGraph) {tokens : List Token}
    (ht : ∀ t ∈ tokens, t.IsWritable) :
    decodeTokens ((encode g tokens).get "tokens") = .ok tokens := by
  unfold encode
  split
  · next he => rw [List.isEmpty_iff.mp he]; rfl
  · exact decodeTokens_toJson ht

/-- **A written plan is read back**: the same tokens, and the same steps with the values of their
literals. -/
theorem decode_encode {g : StepGraph} {tokens : List Token} (hg : g.IsWritable)
    (ht : ∀ t ∈ tokens, t.IsWritable) :
    ∃ j doc, encode? g tokens = .ok j ∧ decode j = .ok doc ∧ doc.tokens = tokens ∧
      List.Forall₂ Step.ReadsAs g.steps doc.graph.steps := by
  obtain ⟨graph, added, hgraph, hsteps, hreads⟩ := exists_decodeSteps_eq_ok (g := .empty) hg
    g.label_ne_empty g.nodup_labels 0
  refine ⟨encode g tokens, ⟨graph, tokens⟩, encode?_of_isWritable hg tokens, ?_, rfl, ?_⟩
  · have hobject : (encode g tokens).isObject = true := by unfold encode; split <;> rfl
    simp only [decode, hobject, steps_encode, decodeTokens_encode g ht, hgraph]
    rfl
  · rw [hsteps]
    exact hreads

/-! ## A swap -/

theorem isWellFormed_shortest : Address.isWellFormed "0x1".toList = true := by decide

/-- Takes a coin with literals of every kind, and gives it away after it was lent. -/
def swap : StepGraph where
  steps := [
    ⟨"take", ⟨"0x1", "coin", "take", isWellFormed_shortest, by decide, by decide⟩,
      [.str "0x1::gas::Gas"],
      [.signer, .literal (.int 205000000), .literal (.int (-3)), .literal (.str "007n"),
        .literal (.bool true)]⟩,
    ⟨"give", { address := "0xB2", module := "coin", function := "give" }, [],
      [.ref ⟨"take", 0, .borrowMut⟩, .ref ⟨"take", 0, .move⟩]⟩]

def swapToken : Token := ⟨"USDC", "0xc1", 6⟩

theorem isWritable_swap : swap.IsWritable := by
  have h007 : decodeLiteral (.str "007n") = .ok (.nat 7) := rfl
  simp only [StepGraph.IsWritable, swap, List.forall_mem_cons]
  refine ⟨⟨by simp [Json.text?], ?_⟩, ⟨by simp, ?_⟩, by simp⟩
  · simp only [List.forall_mem_cons]
    exact ⟨.signer, .int (by decide), .int (by decide), .text h007, .bool true, by simp⟩
  · simp only [List.forall_mem_cons]
    exact ⟨.ref (by decide), .ref (by decide), by simp⟩

theorem isWritable_swapToken : swapToken.IsWritable := ⟨by decide, by decide, by decide⟩

theorem decode_encode_swap : swap.IsWritable ∧ (∀ t ∈ [swapToken], t.IsWritable) ∧
    ∃ j doc, encode? swap [swapToken] = .ok j ∧ decode j = .ok doc ∧ doc.tokens = [swapToken] ∧
      List.Forall₂ Step.ReadsAs swap.steps doc.graph.steps := by
  have ht : ∀ t ∈ [swapToken], t.IsWritable := by
    simpa using isWritable_swapToken
  exact ⟨isWritable_swap, ht, decode_encode isWritable_swap ht⟩

end Plan

end MovePlan
