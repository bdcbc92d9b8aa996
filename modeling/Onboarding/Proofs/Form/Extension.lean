import Onboarding.Form.Schema

/-! Schemas put together. A field of the second schema takes the place of the one that has its name,
or comes at the end; so the last field of a name is the one that is found, the order is that of the
first ones, and it makes no difference which two of three schemas are put together first, unless the
one in the middle has a name twice. -/
namespace Onboarding.Schema

/-- The names of the fields in order. -/
def names (s : Schema) : List String := s.fields.map Field.name

/-! One field put in its place. -/

section Place

variable {fs : List Field} {f g : Field}

theorem names_place (fs : List Field) (f : Field) :
    (place fs f).map Field.name =
      if f.name ∈ fs.map Field.name then fs.map Field.name else fs.map Field.name ++ [f.name] := by
  induction fs with
  | nil => simp [place]
  | cons g fs ih =>
    rw [place]
    split
    · rename_i same
      rw [List.map_cons, List.map_cons, same, if_pos (List.mem_cons_self ..)]
    · rename_i apart
      have further : f.name ∈ (g :: fs).map Field.name ↔ f.name ∈ fs.map Field.name := by
        rw [List.map_cons, List.mem_cons, or_iff_right (Ne.symm apart)]
      simp only [List.map_cons, ih, ← further]
      split <;> rfl

theorem mem_names_place (fs : List Field) (f : Field) : f.name ∈ (place fs f).map Field.name := by
  rw [names_place]
  split
  · assumption
  · simp

theorem mem_names_place_of_mem {name : String} (known : name ∈ fs.map Field.name) (f : Field) :
    name ∈ (place fs f).map Field.name := by
  rw [names_place]
  split
  · exact known
  · exact List.mem_append_left _ known

theorem nodup_place (once : (fs.map Field.name).Nodup) (f : Field) :
    ((place fs f).map Field.name).Nodup := by
  rw [names_place]
  split
  · exact once
  · rename_i new
    refine List.nodup_append.mpr ⟨once, by simp, ?_⟩
    rintro name known _ last rfl
    exact new (List.mem_singleton.mp last ▸ known)

theorem mem_of_place (member : g ∈ place fs f) : g ∈ fs ∨ g = f := by
  induction fs with
  | nil => exact .inr (List.mem_singleton.mp member)
  | cons h fs ih =>
    rw [place] at member
    split at member
    · rcases List.mem_cons.mp member with itself | later
      · exact .inr itself
      · exact .inl (List.mem_cons_of_mem h later)
    · rcases List.mem_cons.mp member with rfl | later
      · exact .inl List.mem_cons_self
      · exact (ih later).imp_left (List.mem_cons_of_mem h)

theorem find?_place (fs : List Field) (f : Field) (name : String) :
    (place fs f).find? (·.name == name) =
      if f.name = name then some f else fs.find? (·.name == name) := by
  induction fs with
  | nil => by_cases same : f.name = name <;> simp [place, same]
  | cons g fs ih =>
    rw [place]
    by_cases same : f.name = name
    · subst same
      by_cases itself : g.name = f.name <;> simp [itself, ih]
    · by_cases itself : g.name = f.name
      · have other : ¬ g.name = name := fun here => same (itself.symm.trans here)
        simp [itself, same]
      · rw [if_neg itself, if_neg same, List.find?_cons, List.find?_cons, ih, if_neg same]

/-- Of two fields of one name the second is left, where the first one would be. -/
theorem place_place_same (same : g.name = f.name) (fs : List Field) :
    place (place fs g) f = place fs f := by
  induction fs with
  | nil => simp [place, same]
  | cons h fs ih =>
    by_cases itself : h.name = f.name
    · simp [place, same, itself]
    · simp [place, same, itself, ih]

/-- A field whose name is there already may be put in its place before another one or after it. -/
theorem place_comm (known : f.name ∈ fs.map Field.name) (apart : g.name ≠ f.name) :
    place (place fs g) f = place (place fs f) g := by
  induction fs with
  | nil => simp at known
  | cons h fs ih =>
    by_cases first : h.name = f.name
    · have other : ¬ f.name = g.name := apart.symm
      simp [place, first, other]
    · have known : f.name ∈ fs.map Field.name := by
        simpa [Ne.symm first] using known
      by_cases second : h.name = g.name
      · simp [place, second, apart]
      · simp [place, first, second, ih known]

end Place

/-! Fields put in their places one after the other. -/

section PlaceAll

variable {gs : List Field} {f : Field}

theorem nodup_foldl_place {fs : List Field} (once : (fs.map Field.name).Nodup) (gs : List Field) :
    ((gs.foldl place fs).map Field.name).Nodup := by
  induction gs generalizing fs with
  | nil => exact once
  | cons g gs ih => exact ih (nodup_place once g)

theorem mem_of_foldl_place {fs : List Field} (member : f ∈ gs.foldl place fs) :
    f ∈ fs ∨ f ∈ gs := by
  induction gs generalizing fs with
  | nil => exact .inl member
  | cons g gs ih =>
    rcases ih member with placed | later
    · rcases mem_of_place placed with before | rfl
      · exact .inl before
      · exact .inr List.mem_cons_self
    · exact .inr (List.mem_cons_of_mem g later)

theorem find?_foldl_place (gs fs : List Field) (name : String) :
    (gs.foldl place fs).find? (·.name == name) =
      (gs.findRev? (·.name == name)).or (fs.find? (·.name == name)) := by
  induction gs generalizing fs with
  | nil => rfl
  | cons g gs ih =>
    rw [List.foldl_cons, ih, find?_place, List.findRev?]
    cases gs.findRev? (·.name == name) with
    | some last => rfl
    | none => by_cases here : g.name = name <;> simp [here]

theorem names_foldl_place (gs fs : List Field) :
    (gs.foldl place fs).map Field.name = fs.map Field.name ++
      ((gs.map Field.name).filter (· ∉ fs.map Field.name)).eraseDups := by
  induction gs generalizing fs with
  | nil => simp
  | cons g gs ih =>
    rw [List.foldl_cons, ih, names_place]
    split
    · rename_i known
      rw [List.map_cons, List.filter_cons_of_neg (by simpa using known)]
    · rename_i new
      -- the name comes in here, and is left out of what is new from here on
      have rest : (gs.map Field.name).filter (· ∉ fs.map Field.name ++ [g.name]) =
          ((gs.map Field.name).filter (· ∉ fs.map Field.name)).filter (fun n => !n == g.name) := by
        rw [List.filter_filter]
        refine List.filter_congr fun name _ => ?_
        by_cases itself : name = g.name <;> simp [itself]
      rw [rest, List.map_cons, List.filter_cons_of_pos (by simpa using new), List.eraseDups_cons,
        List.append_assoc]
      rfl

/-- A field whose name is there already may come before all others that have other names. -/
theorem place_foldl {fs : List Field} (known : f.name ∈ fs.map Field.name)
    (apart : f.name ∉ gs.map Field.name) :
    place (gs.foldl place fs) f = gs.foldl place (place fs f) := by
  induction gs generalizing fs with
  | nil => rfl
  | cons g gs ih =>
    obtain ⟨first, others⟩ : f.name ≠ g.name ∧ f.name ∉ gs.map Field.name := by
      simpa using apart
    rw [List.foldl_cons, List.foldl_cons, ih (mem_names_place_of_mem known g) others,
      place_comm known first.symm]

/-- A field may be put in its place among the later ones first, if each of these has its own name. -/
theorem foldl_place {gs : List Field} (once : (gs.map Field.name).Nodup) (f : Field)
    (fs : List Field) : (place gs f).foldl place fs = place (gs.foldl place fs) f := by
  induction gs generalizing fs with
  | nil => rfl
  | cons g gs ih =>
    obtain ⟨apart, once⟩ := List.nodup_cons.mp once
    by_cases same : g.name = f.name
    · have replaced : place (g :: gs) f = f :: gs := by rw [place, if_pos same]
      rw [replaced, List.foldl_cons, List.foldl_cons,
        place_foldl (same ▸ mem_names_place fs g) (same ▸ apart), place_place_same same]
    · have kept : place (g :: gs) f = g :: place gs f := by rw [place, if_neg same]
      rw [kept, List.foldl_cons, List.foldl_cons, ih once]

theorem foldl_foldl_place {gs : List Field} (once : (gs.map Field.name).Nodup)
    (hs fs : List Field) :
    (hs.foldl place gs).foldl place fs = hs.foldl place (gs.foldl place fs) := by
  induction hs generalizing gs with
  | nil => rfl
  | cons h hs ih => rw [List.foldl_cons, ih (nodup_place once h), foldl_place once h, List.foldl_cons]

end PlaceAll

/-- A schema that is extended keeps its names apart; of each name the last field of the other schema
is found, or else its own; its names stay in their places and the new ones follow in the order of
their first fields; nothing changes if nothing is added; and of three schemas any two may be put
together first, if the one in the middle has no name twice. -/
theorem extend_algebra :
    (∀ s t : Schema, s.names.Nodup → (s.extend t).names.Nodup) ∧
    (∀ (s t : Schema) (name : String), (s.extend t).field? name =
      (t.fields.findRev? (·.name == name)).or (s.field? name)) ∧
    (∀ s t : Schema, (s.extend t).names = s.names ++ (t.names.filter (· ∉ s.names)).eraseDups) ∧
    (∀ s : Schema, s.extend empty = s) ∧
    ∀ a b c : Schema, b.names.Nodup → (a.extend b).extend c = a.extend (b.extend c) := by
  refine ⟨?_, ?_, ?_, ?_, ?_⟩
  · intro s t once
    exact nodup_foldl_place once t.fields
  · intro s t name
    exact find?_foldl_place t.fields s.fields name
  · intro s t
    exact names_foldl_place t.fields s.fields
  · intro s
    rfl
  · intro a b c once
    exact congrArg Schema.mk (foldl_foldl_place once c.fields a.fields).symm

/-- A form for a host, and one in which the host may be left out. -/
def hostForm : Schema := empty.required "host" .string none

def portForm : Schema := (empty.optional "host" .string).optional "port" .port

theorem host_extended :
    hostForm.names.Nodup ∧ (hostForm.extend portForm).names.Nodup ∧
      (portForm.extend hostForm).extend portForm = portForm.extend (hostForm.extend portForm) ∧
      (hostForm.extend portForm).names = ["host", "port"] := by
  obtain ⟨apart, _, _, _, assoc⟩ := extend_algebra
  have once : hostForm.names.Nodup := by decide
  exact ⟨once, apart hostForm portForm once, assoc portForm hostForm portForm once, by decide⟩

/-- Where the schema in the middle has a name twice, the order matters. -/
example : ((empty.extend ⟨portForm.fields ++ hostForm.fields⟩).extend portForm).fields.map
      Field.required ≠
    (empty.extend (Schema.extend ⟨portForm.fields ++ hostForm.fields⟩ portForm)).fields.map
      Field.required := by decide

end Onboarding.Schema
