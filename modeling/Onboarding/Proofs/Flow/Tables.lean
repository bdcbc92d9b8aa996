import Onboarding.Proofs.Flow.Record

/-! The tables of a desk. The rows of the flows in progress are those of the listed flows, which go
on, and each shows what the context of its flow says. A claim writes the row and the context in one
go, and so does the end of a flow with its row and its listing. Where the flows of a handler claim
unique ids only while no other one of them holds these, no two of their rows show the same. -/
namespace Onboarding

variable {H : Type} {F : Signature}

/-- The row of a flow in progress that shows the form of a step. -/
def Context.row (c : Context) (step : Option String) : Progress :=
  ⟨c.flowId, c.handler, c.source, step, c.uniqueId⟩

/-- Handlers whose flows keep to a practice of claiming, and what such flows remember. -/
structure Practice (H : Type) where
  binds : String → Prop
  memory : H → Prop

/-- The practice of nobody. -/
def Practice.none : Practice H := ⟨fun _ => False, fun _ => False⟩

/-- The flows that the integration of a domain starts keep to the practice where they are bound to
it. An options flow is bound by the entry that it is for. -/
structure Practice.Admits (u : Practice H) (domain : String) (i : Integration H) : Prop where
  start : u.binds domain → u.memory i.start
  options : ∀ (e : Entry) (memory : H), u.binds e.id → i.options e = some memory → u.memory memory

namespace Desk

variable {u : Practice H} {d t v : Desk H} {id g : String} {agent : Option String}

/-- The rows are those of the listed flows, and show what their contexts say. -/
structure Tabled (d : Desk H) : Prop where
  rows : ∀ id : String, id ∈ d.progress ↔ id ∈ d.listed
  agree : ∀ (id : String) (row : Progress), d.progress[id]? = some row →
    ∃ f, d.flows[id]? = some f ∧ f.finished = false ∧ row = f.context.row row.step

/-- What is listed has not ended. -/
theorem Tabled.unfinished (tabled : d.Tabled) (listed : id ∈ d.listed) {f : Flow H}
    (here : d.flows[id]? = some f) : f.finished = false := by
  have row := (tabled.rows id).mpr listed
  rw [Std.ExtTreeMap.mem_iff_isSome_getElem?, Option.isSome_iff_exists] at row
  obtain ⟨row, at'⟩ := row
  obtain ⟨f', there, unfinished, _⟩ := tabled.agree id row at'
  cases here.symm.trans there
  exact unfinished

/-- What is kept of a desk by the calls of flows that keep to a practice. -/
structure Sound (u : Practice H) (d : Desk H) : Prop where
  numbered : d.Numbered
  filed : d.registry.Filed
  tabled : d.Tabled
  admitted : ∀ (domain : String) (i : Integration H),
    d.integrations[domain]? = some i → u.Admits domain i
  trained : ∀ (id : String) (f : Flow H), d.flows[id]? = some f →
    u.binds f.context.handler → u.memory f.memory
  apart : ∀ (id other : String) (row row' : Progress), d.progress[id]? = some row →
    d.progress[other]? = some row' → row.handler = row'.handler → u.binds row.handler →
    row.uniqueId ≠ none → row.uniqueId = row'.uniqueId → id = other

/-- Flows stay the flows they are, those that have ended stay so, and only new ones are listed. -/
structure Forth (d t : Desk H) : Prop where
  later : Later d t
  lasts : ∀ (id : String) (f g : Flow H), d.flows[id]? = some f → t.flows[id]? = some g →
    f.finished = true → g.finished = true

theorem Forth.refl (d : Desk H) : Forth d d where
  later := .refl d
  lasts id f g here there ended := by
    cases here.symm.trans there
    exact ended

theorem Forth.trans (first : Forth d t) (second : Forth t v) : Forth d v where
  later := first.later.trans second.later
  lasts id f h here further ended := by
    obtain ⟨g, there, _⟩ := first.later.flows id f here
    exact second.lasts id g h there further (first.lasts id f g here there ended)

/-- What is done for one flow leaves all others alone. -/
structure Spares (agent : Option String) (d t : Desk H) : Prop where
  flow : ∀ id : String, agent ≠ some id → t.flows[id]? = d.flows[id]?
  row : ∀ (id : String) (row : Progress), agent ≠ some id → t.progress[id]? = some row →
    d.progress[id]? = some row
  listed : ∀ id : String, agent ≠ some id → id ∈ t.listed → id ∈ d.listed

theorem Spares.refl (agent : Option String) (d : Desk H) : Spares agent d d :=
  ⟨fun _ _ => rfl, fun _ _ _ here => here, fun _ _ member => member⟩

/-- One write for a flow. -/
structure Stroke (u : Practice H) (agent : Option String) (d t : Desk H) : Prop where
  sound : t.Sound u
  forth : Forth d t
  spares : Spares agent d t

/-! What is written beside the tables. -/

/-- Nothing of the flows is changed. -/
structure Beside (d t : Desk H) : Prop where
  flows : t.flows = d.flows
  listed : t.listed = d.listed
  progress : t.progress = d.progress

theorem Beside.forth (beside : Beside d t) : Forth d t where
  later := by
    refine ⟨?_, ?_⟩
    · rw [beside.flows]
      exact (Later.refl d).flows
    · rw [beside.listed]
      exact (Later.refl d).listed
  lasts id f g here there ended := by
    rw [beside.flows, here] at there
    cases there
    exact ended

theorem Beside.spares (beside : Beside d t) (agent : Option String) : Spares agent d t where
  flow _ _ := by rw [beside.flows]
  row id row _ here := by rw [← beside.progress, here]
  listed id _ member := by rwa [← beside.listed]

theorem Beside.tabled (beside : Beside d t) (tabled : d.Tabled) : t.Tabled := by
  refine ⟨?_, ?_⟩
  · rw [beside.progress, beside.listed]
    exact tabled.rows
  · rw [beside.progress, beside.flows]
    exact tabled.agree

theorem Sound.beside (sound : d.Sound u) (beside : Beside d t) (issued : d.issued ≤ t.issued)
    (filed : t.registry.Filed) (admitted : ∀ (domain : String) (i : Integration H),
      t.integrations[domain]? = some i → u.Admits domain i)
    (agent : Option String) : Stroke u agent d t where
  sound := by
    refine ⟨⟨?_, ?_⟩, filed, beside.tabled sound.tabled, admitted, ?_, ?_⟩
    · intro id f here
      rw [beside.flows] at here
      obtain ⟨named, n, given, same⟩ := sound.numbered.flows id f here
      exact ⟨named, n, Nat.lt_of_lt_of_le given issued, same⟩
    · rw [beside.listed, beside.flows]
      exact sound.numbered.listed
    · rw [beside.flows]
      exact sound.trained
    · rw [beside.progress]
      exact sound.apart
  forth := beside.forth
  spares := beside.spares agent

theorem Sound.registry (sound : d.Sound u) {r : Registry} (filed : r.Filed)
    (agent : Option String) : Stroke u agent d { d with registry := r } :=
  sound.beside (t := { d with registry := r }) ⟨rfl, rfl, rfl⟩ (Nat.le_refl _) filed
    sound.admitted agent

theorem Sound.issue (sound : d.Sound u) (agent : Option String) : Stroke u agent d d.issue.2 :=
  sound.beside (t := d.issue.2) ⟨rfl, rfl, rfl⟩ (Nat.le_succ _) sound.filed sound.admitted agent

theorem Sound.changed (sound : d.Sound u) (c : Registry.Change) (agent : Option String) :
    Stroke u agent d (d.changed c) := by
  refine sound.registry ?_ agent
  rcases c.catalog d.registry with same | ⟨m, rfl, step⟩
  · rw [same]
    exact sound.filed
  · exact step.filed sound.filed

theorem Sound.lifecycle (sound : d.Sound u) {r : Registry} (moved : Registry.Lifecycle d.registry r)
    (agent : Option String) : Stroke u agent d { d with registry := r } := by
  refine sound.registry ?_ agent
  cases moved with
  | turn busy => exact sound.filed
  | phase held led => exact sound.filed.revise _

theorem Sound.integrate (sound : d.Sound u) {domain : String} {i : Integration H}
    (admits : u.Admits domain i) (agent : Option String) :
    Stroke u agent d { d with integrations := d.integrations.insert domain i } := by
  refine sound.beside (t := { d with integrations := d.integrations.insert domain i })
    ⟨rfl, rfl, rfl⟩ (Nat.le_refl _) sound.filed ?_ agent
  intro other j registered
  rw [Std.ExtTreeMap.getElem?_insert] at registered
  split at registered
  · rename_i same
    cases registered
    cases Std.LawfulEqCmp.compare_eq_iff_eq.mp same
    exact admits
  · exact sound.admitted other j registered

theorem Sound.time (sound : d.Sound u) (now : Instant) (agent : Option String) :
    Stroke u agent d { d with now } :=
  sound.beside (t := { d with now }) ⟨rfl, rfl, rfl⟩ (Nat.le_refl _) sound.filed sound.admitted
    agent

/-! What is written of one flow. -/

/-- One flow and its row are revised. -/
structure Revision (g : String) (onFlow : Flow H → Flow H) (onRow : Progress → Progress)
    (d t : Desk H) : Prop where
  registry : t.registry = d.registry
  integrations : t.integrations = d.integrations
  issued : t.issued = d.issued
  listed : t.listed = d.listed
  flow : ∀ id : String, t.flows[id]? = d.flows[id]?.map fun f => if g = id then onFlow f else f
  row : ∀ id : String, t.progress[id]? = d.progress[id]?.map fun r => if g = id then onRow r else r

/-- One flow is revised and taken off the lists. -/
structure Retirement (g : String) (onFlow : Flow H → Flow H) (d t : Desk H) : Prop where
  registry : t.registry = d.registry
  integrations : t.integrations = d.integrations
  issued : t.issued = d.issued
  listed : ∀ id : String, id ∈ t.listed ↔ g ≠ id ∧ id ∈ d.listed
  flow : ∀ id : String, t.flows[id]? = d.flows[id]?.map fun f => if g = id then onFlow f else f
  row : ∀ id : String, t.progress[id]? = if g = id then none else d.progress[id]?

theorem row_modifyProgress (d : Desk H) (id other : String) (onRow : Progress → Progress) :
    (d.modifyProgress id onRow).progress[other]? =
      d.progress[other]?.map fun r => if id = other then onRow r else r := by
  simp only [modifyProgress, Std.ExtTreeMap.getElem?_modify, Std.LawfulEqCmp.compare_eq_iff_eq]
  by_cases here : id = other
  · subst here
    simp
  · simp [here]

theorem revision_modifyFlow (d : Desk H) (id : String) (onFlow : Flow H → Flow H) :
    Revision id onFlow (fun r => r) d (d.modifyFlow id onFlow) where
  registry := rfl
  integrations := rfl
  issued := rfl
  listed := rfl
  flow other := d.flow_modifyFlow id other onFlow
  row other := by simp [modifyFlow]

theorem revision_both (d : Desk H) (id : String) (onFlow : Flow H → Flow H)
    (onRow : Progress → Progress) :
    Revision id onFlow onRow d ((d.modifyFlow id onFlow).modifyProgress id onRow) where
  registry := rfl
  integrations := rfl
  issued := rfl
  listed := rfl
  flow other := d.flow_modifyFlow id other onFlow
  row other := d.row_modifyProgress id other onRow

theorem retirement_delist (d : Desk H) (id : String) :
    Retirement id (fun f => f) d (d.delist id) where
  registry := rfl
  integrations := rfl
  issued := rfl
  listed other := by simp [delist, Std.ExtTreeSet.mem_erase]
  flow other := by simp [delist]
  row other := by simp [delist, Std.ExtTreeMap.getElem?_erase]

theorem retirement_close (d : Desk H) (id : String) :
    Retirement id ({ · with finished := true }) d (d.close id) where
  registry := rfl
  integrations := rfl
  issued := rfl
  listed := (retirement_delist _ id).listed
  flow other := d.flow_modifyFlow id other _
  row := (retirement_delist _ id).row

section Revision

variable {onFlow : Flow H → Flow H} {onRow : Progress → Progress}

theorem same_ite (same : ∀ f : Flow H, f.Same (onFlow f)) (id : String) (f : Flow H) :
    f.Same (if g = id then onFlow f else f) := by
  split
  · exact same f
  · exact .refl f

theorem Revision.notes (revision : Revision g onFlow onRow d t)
    (same : ∀ f : Flow H, f.Same (onFlow f)) : d.Notes t where
  registry := revision.registry
  integrations := revision.integrations
  issued := revision.issued
  flows := ⟨fun id f => if g = id then onFlow f else f, same_ite same, revision.flow⟩
  listed _ member := revision.listed ▸ member

theorem Retirement.notes (retirement : Retirement g onFlow d t)
    (same : ∀ f : Flow H, f.Same (onFlow f)) : d.Notes t where
  registry := retirement.registry
  integrations := retirement.integrations
  issued := retirement.issued
  flows := ⟨fun id f => if g = id then onFlow f else f, same_ite same, retirement.flow⟩
  listed id member := ((retirement.listed id).mp member).2

theorem lasts_of_map (flow : ∀ id : String,
      t.flows[id]? = d.flows[id]?.map fun f => if g = id then onFlow f else f)
    (grows : ∀ f : Flow H, f.finished = true → (onFlow f).finished = true) (id : String)
    (f f' : Flow H) (here : d.flows[id]? = some f) (there : t.flows[id]? = some f')
    (ended : f.finished = true) : f'.finished = true := by
  rw [flow, here] at there
  cases there
  dsimp only
  split
  · exact grows f ended
  · exact ended

theorem trained_of_map (sound : d.Sound u) (flow : ∀ id : String,
      t.flows[id]? = d.flows[id]?.map fun f => if g = id then onFlow f else f)
    (same : ∀ f : Flow H, f.Same (onFlow f))
    (memory : ∀ f : Flow H, d.flows[g]? = some f → u.binds f.context.handler →
      u.memory (onFlow f).memory) (id : String) (f : Flow H) (here : t.flows[id]? = some f)
    (bound : u.binds f.context.handler) : u.memory f.memory := by
  rw [flow, Option.map_eq_some_iff] at here
  obtain ⟨old, before, rfl⟩ := here
  by_cases itself : g = id
  · subst itself
    rw [if_pos rfl, (same old).context] at bound
    rw [if_pos rfl]
    exact memory old before bound
  · rw [if_neg itself] at bound ⊢
    exact sound.trained id old before bound

theorem flow_of_map (flow : ∀ id : String,
      t.flows[id]? = d.flows[id]?.map fun f => if g = id then onFlow f else f) {id : String}
    (other : some g ≠ some id) : t.flows[id]? = d.flows[id]? := by
  rw [flow]
  cases d.flows[id]? with
  | none => rfl
  | some f => exact congrArg some (if_neg fun same => other (congrArg some same))

/-- No other flow of the handler holds what the revised flow of a bound handler claims, if that is
not what it held before. -/
def Unclaimed (u : Practice H) (d : Desk H) (g : String) (onFlow : Flow H → Flow H) : Prop :=
  ∀ f : Flow H, d.flows[g]? = some f → u.binds f.context.handler →
    (onFlow f).context.uniqueId = f.context.uniqueId ∨
      ∀ (other : String) (row : Progress), g ≠ other → d.progress[other]? = some row →
        row.handler = f.context.handler → row.uniqueId ≠ (onFlow f).context.uniqueId

/-- The revision of a flow in its context and its row alike. -/
theorem Sound.revise (sound : d.Sound u) (revision : Revision g onFlow onRow d t)
    (same : ∀ f : Flow H, f.Same (onFlow f))
    (ongoing : ∀ f : Flow H, (onFlow f).finished = f.finished)
    (rows : ∀ (f : Flow H) (step : Option String),
      onRow (f.context.row step) = (onFlow f).context.row (onRow (f.context.row step)).step)
    (memory : ∀ f : Flow H, d.flows[g]? = some f → u.binds f.context.handler →
      u.memory (onFlow f).memory)
    (unclaimed : Unclaimed u d g onFlow) : Stroke u (some g) d t := by
  obtain ⟨numbered, later⟩ := sound.numbered.note (revision.notes same)
  have agree : ∀ (id : String) (row : Progress), t.progress[id]? = some row → ∃ old f,
      d.progress[id]? = some old ∧ d.flows[id]? = some f ∧ f.finished = false ∧
      old = f.context.row old.step ∧ row = if g = id then onRow old else old := by
    intro id row here
    rw [revision.row, Option.map_eq_some_iff] at here
    obtain ⟨old, before, rfl⟩ := here
    obtain ⟨f, flow, unfinished, shows⟩ := sound.tabled.agree id old before
    exact ⟨old, f, before, flow, unfinished, shows, rfl⟩
  refine ⟨⟨numbered, revision.registry ▸ sound.filed, ⟨fun id => ?_, fun id row here => ?_⟩,
    revision.integrations ▸ sound.admitted, trained_of_map sound revision.flow same memory, ?_⟩,
    ⟨later, lasts_of_map revision.flow fun f ended => (ongoing f).trans ended⟩, ?_⟩
  · rw [revision.listed, ← sound.tabled.rows, Std.ExtTreeMap.mem_iff_isSome_getElem?,
      Std.ExtTreeMap.mem_iff_isSome_getElem?, revision.row, Option.isSome_map]
  · obtain ⟨old, f, before, flow, unfinished, shows, rfl⟩ := agree id row here
    refine ⟨if g = id then onFlow f else f, by rw [revision.flow, flow]; rfl, ?_, ?_⟩
    · split
      · exact (ongoing f).trans unfinished
      · exact unfinished
    · split
      · rw [shows]
        exact rows f old.step
      · exact shows
  · -- a claim of the revised flow is compared with the rows as they were before
    intro id other row row' here there handler bound claimed equal
    obtain ⟨old, f, before, flow, _, shows, rfl⟩ := agree id row here
    obtain ⟨old', f', before', flow', _, shows', rfl⟩ := agree other row' there
    have kept (h : Flow H) : (onFlow h).context.handler = h.context.handler := by
      rw [(same h).context]
    by_cases at' : g = id <;> by_cases elsewhere : g = other
    · exact at'.symm.trans elsewhere
    · subst at'
      rw [if_pos rfl, shows, rows] at handler bound claimed equal
      rw [if_neg elsewhere] at handler equal
      change (onFlow f).context.handler = old'.handler at handler
      change u.binds (onFlow f).context.handler at bound
      rw [kept] at handler bound
      rcases unclaimed f flow bound with unchanged | free
      · refine sound.apart g other old old' before before' ?_ ?_ ?_ ?_ <;> rw [shows]
        · exact handler
        · exact bound
        · exact fun none => claimed (unchanged.trans none)
        · exact unchanged.symm.trans equal
      · exact absurd equal.symm (free other old' elsewhere before' handler.symm)
    · subst elsewhere
      rw [if_pos rfl, shows', rows] at handler equal
      rw [if_neg at'] at handler bound claimed equal
      change old.handler = (onFlow f').context.handler at handler
      rw [kept] at handler
      rcases unclaimed f' flow' (handler ▸ bound) with unchanged | free
      · refine sound.apart id g old old' before before' ?_ bound claimed ?_ <;> rw [shows']
        · exact handler
        · exact equal.trans unchanged
      · exact absurd equal (free id old at' before handler)
    · rw [if_neg at'] at handler bound claimed equal
      rw [if_neg elsewhere] at handler equal
      exact sound.apart id other old old' before before' handler bound claimed equal
  · refine ⟨fun id => flow_of_map revision.flow, fun id row other here => ?_, fun id _ member => ?_⟩
    · obtain ⟨old, _, before, _, _, _, rfl⟩ := agree id row here
      rw [if_neg fun same => other (congrArg some same)]
      exact before
    · exact revision.listed ▸ member

/-- The retirement of a flow, that ends it or not. -/
theorem Sound.retire (sound : d.Sound u) (retirement : Retirement g onFlow d t)
    (same : ∀ f : Flow H, f.Same (onFlow f))
    (grows : ∀ f : Flow H, f.finished = true → (onFlow f).finished = true)
    (memory : ∀ f : Flow H, (onFlow f).memory = f.memory) : Stroke u (some g) d t := by
  obtain ⟨numbered, later⟩ := sound.numbered.note (retirement.notes same)
  have before {id : String} {row : Progress} (here : t.progress[id]? = some row) :
      g ≠ id ∧ d.progress[id]? = some row := by
    rw [retirement.row] at here
    split at here
    · cases here
    · rename_i other
      exact ⟨other, here⟩
  refine ⟨⟨numbered, retirement.registry ▸ sound.filed, ⟨fun id => ?_, fun id row here => ?_⟩,
    retirement.integrations ▸ sound.admitted, trained_of_map sound retirement.flow same ?_, ?_⟩,
    ⟨later, lasts_of_map retirement.flow grows⟩, ?_⟩
  · rw [retirement.listed, ← sound.tabled.rows, Std.ExtTreeMap.mem_iff_isSome_getElem?,
      Std.ExtTreeMap.mem_iff_isSome_getElem?, retirement.row]
    split
    · rename_i here
      simp [here]
    · rename_i other
      simp [other]
  · obtain ⟨other, held⟩ := before here
    obtain ⟨f, flow, unfinished, shows⟩ := sound.tabled.agree id row held
    exact ⟨f, by rw [retirement.flow, flow]; simp [other], unfinished, shows⟩
  · intro f here bound
    rw [memory]
    exact sound.trained g f here bound
  · intro id other row row' here there
    exact sound.apart id other row row' (before here).2 (before there).2
  · exact ⟨fun id => flow_of_map retirement.flow, fun id row _ here => (before here).2,
      fun id _ member => ((retirement.listed id).mp member).2⟩

end Revision

/-! The writes of the calls. -/

theorem Sound.delist (sound : d.Sound u) (g : String) : Stroke u (some g) d (d.delist g) :=
  sound.retire (retirement_delist d g) (fun f => .refl f) (fun _ ended => ended) fun _ => rfl

theorem Sound.close (sound : d.Sound u) (g : String) : Stroke u (some g) d (d.close g) :=
  sound.retire (retirement_close d g) (fun _ => ⟨rfl, rfl⟩) (fun _ _ => rfl) fun _ => rfl

theorem Sound.showPage (sound : d.Sound u) (g : String) (p : Page) :
    Stroke u (some g) d (d.showPage g p) :=
  sound.revise (d.revision_both g _ _) (fun _ => ⟨rfl, rfl⟩) (fun _ => rfl) (fun _ _ => rfl)
    (fun f here bound => sound.trained g f here bound) fun _ _ _ => .inl rfl

theorem Sound.mark (sound : d.Sound u) (g : String) (busy : Bool) :
    Stroke u (some g) d (d.modifyFlow g ({ · with busy })) :=
  sound.revise (d.revision_modifyFlow g _) (fun _ => ⟨rfl, rfl⟩) (fun _ => rfl) (fun _ _ => rfl)
    (fun f here bound => sound.trained g f here bound) fun _ _ _ => .inl rfl

theorem Sound.remember (sound : d.Sound u) (g : String) {memory : H}
    (trained : ∀ f, d.flows[g]? = some f → u.binds f.context.handler → u.memory memory) :
    Stroke u (some g) d (d.modifyFlow g ({ · with memory })) :=
  sound.revise (d.revision_modifyFlow g _) (fun _ => ⟨rfl, rfl⟩) (fun _ => rfl) (fun _ _ => rfl)
    (fun f here bound => trained f here bound) fun _ _ _ => .inl rfl

/-- Whoever holds a unique id against a claim is a flow in progress, of the same handler. -/
theorem Sound.heldByOther (sound : d.Sound u) {c : Context} {uniqueId : String} :
    d.heldByOther c uniqueId = true ↔ ∃ (other : String) (f : Flow H), other ≠ c.flowId ∧
      other ∈ d.listed ∧ d.flows[other]? = some f ∧ f.finished = false ∧
      f.context.handler = c.handler ∧ f.context.uniqueId = some uniqueId := by
  rw [heldByOther_iff]
  constructor
  · rintro ⟨other, row, here, apart, handler, holds⟩
    obtain ⟨f, flow, unfinished, shows⟩ := sound.tabled.agree other row here
    have named := (sound.numbered.flows other f flow).1
    rw [shows] at apart handler holds
    refine ⟨other, f, fun same => apart (named.trans same), ?_, flow, unfinished, handler, holds⟩
    rw [← sound.tabled.rows, Std.ExtTreeMap.mem_iff_isSome_getElem?, here]
    rfl
  · rintro ⟨other, f, apart, listed, flow, _, handler, holds⟩
    rw [← sound.tabled.rows, Std.ExtTreeMap.mem_iff_isSome_getElem?,
      Option.isSome_iff_exists] at listed
    obtain ⟨row, here⟩ := listed
    obtain ⟨g, there, _, shows⟩ := sound.tabled.agree other row here
    cases flow.symm.trans there
    have named := (sound.numbered.flows other f flow).1
    refine ⟨other, row, here, ?_, ?_, ?_⟩ <;> rw [shows]
    · exact fun same => apart (named.symm.trans same)
    · exact handler
    · exact holds

theorem Sound.claim (sound : d.Sound u) (g uniqueId : String) {exclusive : Bool}
    (allowed : u.binds (d.contextOf g).handler → exclusive = true) :
    Stroke u (some g) d (d.claim g uniqueId exclusive).2 := by
  unfold Desk.claim
  dsimp only
  split
  · exact ⟨sound, .refl d, .refl _ d⟩
  rename_i free
  refine sound.revise (d.revision_both g
      (fun f => { f with context := { f.context with uniqueId := some uniqueId } })
      ({ · with uniqueId := some uniqueId }))
    (fun _ => ⟨rfl, rfl⟩) (fun _ => rfl) (fun _ _ => rfl)
    (fun f here bound => sound.trained g f here bound) fun f here bound => ?_
  have context : d.contextOf g = f.context := by
    rw [contextOf, here]
    rfl
  rw [context] at free allowed
  simp only [allowed bound, Bool.true_and] at free
  refine .inr fun other row apart held handler equal => free ?_
  rw [heldByOther_iff]
  obtain ⟨f', flow', _, shows⟩ := sound.tabled.agree other row held
  refine ⟨other, row, held, ?_, handler, equal⟩
  rw [shows, (sound.numbered.flows g f here).1]
  exact fun same => apart (same.symm.trans (sound.numbered.flows other f' flow').1)

theorem Sound.enroll (sound : d.Sound u) {kind : FlowKind} {memory : H} {c : Context}
    {step : String} {data : Option Data} (opening : Action.Opening d kind memory c step data) :
    Stroke u (some c.flowId) d.issue.2 (d.issue.2.enroll kind memory c step) := by
  have given := opening.flowId
  obtain ⟨numbered, later⟩ := sound.numbered.enroll kind memory step given
  have fresh : d.flows[c.flowId]? = none := given ▸ sound.numbered.fresh
  have unlisted : c.flowId ∉ d.progress := fun member => by
    obtain ⟨f, here⟩ := sound.numbered.listed _ ((sound.tabled.rows _).mp member)
    cases fresh.symm.trans here
  have row (id : String) : (d.issue.2.enroll kind memory c step).progress[id]? =
      if c.flowId = id then some ⟨c.flowId, c.handler, c.source, none, none⟩
      else d.progress[id]? := by
    simp [Desk.enroll, Std.ExtTreeMap.getElem?_insert, Desk.issue]
  have unclaimed : c.uniqueId = none := by cases opening <;> rfl
  refine ⟨⟨numbered, sound.filed, ⟨fun id => ?_, fun id r here => ?_⟩, sound.admitted, ?_, ?_⟩,
    ⟨later, ?_⟩, ?_⟩
  · rw [listed_enroll]
    simp only [Desk.enroll, Std.ExtTreeMap.mem_insert, Std.LawfulEqCmp.compare_eq_iff_eq]
    exact or_congr_right (sound.tabled.rows id)
  · rw [row] at here
    rw [flow_enroll]
    split at here
    · rename_i same
      cases here
      rw [if_pos same]
      exact ⟨_, rfl, rfl, by simp [Context.row, unclaimed]⟩
    · rename_i other
      rw [if_neg other]
      exact sound.tabled.agree id r here
  · intro id f here
    rw [flow_enroll] at here
    split at here
    · cases here
      intro bound
      cases opening with
      | config registered => exact (sound.admitted _ _ registered).start bound
      | reauth held registered => exact (sound.admitted _ _ registered).start bound
      | options held registered has =>
        refine (sound.admitted _ _ registered).options _ _ ?_ has
        rw [sound.filed _ _ held]
        exact bound
    · exact sound.trained id f here
  · intro id other r r' here there handler bound claimed equal
    rw [row] at here there
    split at here
    · cases here
      exact absurd rfl claimed
    split at there
    · cases there
      exact absurd equal claimed
    · exact sound.apart id other r r' here there handler bound claimed equal
  · intro id f f' here there ended
    rw [flow_enroll] at there
    split at there
    · rename_i same
      subst same
      cases fresh.symm.trans here
    · cases Eq.trans here.symm there
      exact ended
  · refine ⟨fun id other => ?_, fun id r other here => ?_, fun id other member => ?_⟩
    · rw [flow_enroll, if_neg fun same => other (congrArg some same)]
    · rw [row, if_neg fun same => other (congrArg some same)] at here
      exact here
    · exact (listed_enroll.mp member).resolve_left fun same => other (congrArg some same)

theorem Sound.abort (sound : d.Sound u) (id : String) : Stroke u (some id) d (d.abort id).1 := by
  unfold Desk.abort
  split
  · exact sound.delist id
  · exact ⟨sound, .refl d, .refl _ d⟩

/-- A desk without a file, before anything was registered. -/
theorem sound_opened (u : Practice H) (handled : Std.ExtTreeSet String) (now : Instant) :
    (Record.opened (H := H) (F := F) handled now).state.Sound u where
  numbered := numbered_opened handled now
  filed := Catalog.filed_empty
  tabled := by
    refine ⟨fun id => ?_, fun id row here => ?_⟩
    · simp [Record.opened]
    · simp [Record.opened] at here
  admitted domain i registered := by simp [Record.opened] at registered
  trained id f here := by simp [Record.opened] at here
  apart id other row row' here := by simp [Record.opened] at here

end Desk

end Onboarding
