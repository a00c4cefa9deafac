import MovePlan.Proofs.Abi.World
import MovePlan.Proofs.Validation.WellFormed

/-!
# Validation with a cache that is kept

Graphs are validated one after the other with the cache that the ones before have filled. In a fixed
world that cannot be told from the reports: each is the one that an empty cache leads to. What can
be told is how often the source was asked.
-/

namespace MovePlan.Validation

open Move Graph Abi

variable {σ : Type}

/-- Validates graphs one after the other with one cache. -/
def validateEach (src : Source σ) : List StepGraph → Desk σ →
    List (Except Error Report) × Desk σ
  | [], d => ([], d)
  | g :: rest, d =>
    let (report, d) := validate src g d
    let (reports, d) := validateEach src rest d
    (report :: reports, d)

/-! ## Only lookups -/

/-- Fetching a function asks for it and for the structs that it returns. -/
theorem leads_fetch (src : Source σ) (id : FunctionId) (d : Desk σ) :
    d.Leads src (fetch src id d).2 := by
  have hask : d.Leads src (d.function src id).2 := .function id (.refl _)
  unfold fetch
  split
  next h => rwa [h] at hask
  next h => rwa [h] at hask
  next h => rwa [h] at hask
  next sig d' h =>
    rw [h] at hask
    have hall := hask.trans (leads_droppableAll src sig.returns d')
    split
    next hr => rwa [hr] at hall
    next hr => rwa [hr] at hall

/-- Fetching several asks for one after the other. -/
theorem leads_fetchEach (src : Source σ) (ids : List FunctionId) (d : Desk σ) :
    d.Leads src (fetchEach src ids d).2 := by
  induction ids generalizing d with
  | nil => exact .refl d
  | cons id rest ih => exact (leads_fetch src id d).trans (ih _)

theorem leads_validate (src : Source σ) (g : StepGraph) (d : Desk σ) :
    d.Leads src (validate src g d).2 := leads_fetchEach src g.functionIds d

/-- The validation of several graphs leads from one cache to the next. -/
theorem leads_validateEach (src : Source σ) (graphs : List StepGraph) (d : Desk σ) :
    d.Leads src (validateEach src graphs d).2 := by
  induction graphs generalizing d with
  | nil => exact .refl d
  | cons g rest ih => exact (leads_validate src g d).trans (ih _)

/-! ## The same reports -/

variable {w : World} {d d' : Desk (List Lookup)}

/-- What is fetched does not depend on what is cached, if that came from the same world. -/
theorem fst_fetch_eq (h : d.Coherent w) (h' : d'.Coherent w) (id : FunctionId) :
    (fetch w.source id d).1 = (fetch w.source id d').1 := by
  have hsame : (d.function w.source id).1 = (d'.function w.source id).1 := by
    rw [h.fst_function, h'.fst_function]
  have hafter := h.function id
  have hafter' := h'.function id
  unfold fetch
  generalize d.function w.source id = out at hsame hafter ⊢
  generalize d'.function w.source id = out' at hsame hafter' ⊢
  obtain ⟨answer, e⟩ := out
  obtain ⟨answer', e'⟩ := out'
  obtain rfl : answer = answer' := hsame
  cases answer with
  | error err => cases err <;> rfl
  | ok found =>
    cases found with
    | none => rfl
    | some sig =>
      have hflags := fst_droppableAll_eq hafter hafter' sig.returns
      dsimp only
      generalize droppableAll w.source sig.returns e = told at hflags ⊢
      generalize droppableAll w.source sig.returns e' = told' at hflags ⊢
      obtain ⟨flags, f⟩ := told
      obtain ⟨flags', f'⟩ := told'
      obtain rfl : flags = flags' := hflags
      cases flags <;> rfl

/-- What is fetched one after the other does not depend on what was known. -/
theorem fst_fetchEach_eq (h : d.Coherent w) (h' : d'.Coherent w) (ids : List FunctionId) :
    (fetchEach w.source ids d).1 = (fetchEach w.source ids d').1 := by
  induction ids generalizing d d' with
  | nil => rfl
  | cons id rest ih =>
    have hlater := ih (h.of_leads (leads_fetch w.source id d))
      (h'.of_leads (leads_fetch w.source id d'))
    simp only [fetchEach, fst_fetch_eq h h' id, hlater]

/-- The report does not depend on what is stored already. -/
theorem fst_validate_eq (h : d.Coherent w) (h' : d'.Coherent w) (g : StepGraph) :
    (validate w.source g d).1 = (validate w.source g d').1 := by
  simp only [validate, fst_fetchEach_eq h h' g.functionIds]

/-- Each graph is judged as if it were the first. -/
theorem fst_validateEach (h : d.Coherent w) (graphs : List StepGraph) :
    (validateEach w.source graphs d).1 =
      graphs.map fun g => (validate w.source g ⟨{}, []⟩).1 := by
  induction graphs generalizing d with
  | nil => rfl
  | cons g rest ih =>
    have hlater := ih (h.of_leads (leads_validate w.source g d))
    simp only [validateEach, List.map_cons, hlater,
      fst_validate_eq h (Desk.coherent_empty w) g]

/-- What there is to tell of graphs that were validated one after the other from an empty cache: the
reports, and the cache and the log of the source after them. -/
structure Unnoticed (w : World) (graphs : List StepGraph)
    (reports : List (Except Error Report)) (after : Desk (List Lookup)) : Prop where
  /-- Each report is the one that the graph gets from an empty cache. -/
  fresh : reports = graphs.map fun g => (validate w.source g ⟨{}, []⟩).1
  /-- There is a report on every graph. -/
  reported : ∀ answer ∈ reports, ∃ report, answer = .ok report
  /-- What does not fail is asked at most once. -/
  once : ∀ l, w.Answers l → after.source.count l ≤ 1
  /-- What fails is not stored. -/
  failed : ∀ l, ¬w.Answers l → ¬after.cache.Holds l
  /-- The functions that the source was asked for are counted. -/
  fetches : after.cache.fetches = after.source.countP Lookup.isFunction

/-- **The cache goes unnoticed**: in a fixed world in which a lookup can only fail to be fetched,
graphs that are validated one after the other get the reports that an empty cache leads to. -/
theorem validateEach_unnoticed {graphs : List StepGraph} (hsrc : w.source.FailsOnlyToFetch)
    (hgraphs : ∀ g ∈ graphs, g.IsProper) :
    Unnoticed w graphs (validateEach w.source graphs ⟨{}, []⟩).1
      (validateEach w.source graphs ⟨{}, []⟩).2 := by
  have hstart := Desk.coherent_empty w
  have hafter := hstart.of_leads (leads_validateEach w.source graphs ⟨{}, []⟩)
  have hfresh := fst_validateEach hstart graphs
  refine ⟨hfresh, fun answer hmem => ?_, hafter.once,
    fun l hl hholds => hl (hafter.answers_of_holds hholds), hafter.fetches⟩
  rw [hfresh] at hmem
  obtain ⟨g, hg, rfl⟩ := List.mem_map.mp hmem
  exact exists_validate_eq_ok hsrc (hgraphs g hg) _

/-- A world in which the functions of coins are known, but the node does not answer for structs. -/
def busyWorld : World where
  function id := .ok ([(withdraw, withdrawSignature), (deposit, depositSignature)].lookup id)
  struct _ := .error (.abiFetch "http://node/v1" "HTTP 503: busy" (some 503))

theorem failsOnlyToFetch_busyWorld : busyWorld.source.FailsOnlyToFetch where
  function _ _ _ h := by cases h
  struct _ _ _ h := by
    cases h
    exact ⟨_, _, _, rfl⟩

theorem unnoticed_payments : busyWorld.source.FailsOnlyToFetch ∧
    (∀ g ∈ [payment, payment], g.IsProper) ∧
    Unnoticed busyWorld [payment, payment]
      (validateEach busyWorld.source [payment, payment] ⟨{}, []⟩).1
      (validateEach busyWorld.source [payment, payment] ⟨{}, []⟩).2 := by
  have hproper : ∀ g ∈ [payment, payment], g.IsProper := by simp [isProper_payment]
  exact ⟨failsOnlyToFetch_busyWorld, hproper,
    validateEach_unnoticed failsOnlyToFetch_busyWorld hproper⟩

/-- A function is asked for once, a struct that could not be fetched once for each graph. -/
example : (validateEach busyWorld.source [payment, payment] ⟨{}, []⟩).2.source =
    [.function withdraw, .struct "0x7::coin::Coin", .function deposit,
      .struct "0x7::coin::Coin"] := by decide +kernel

end MovePlan.Validation
