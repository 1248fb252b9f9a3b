import LecturePlan.Proofs.Compile.Likeness
import Mathlib.Data.List.Dedup
/-!
# Remembered answers are the table's answers

A registry that remembers asks the one behind it in the spelling of the question, and remembers under the
lower-case form.  The one behind it may fail for some spellings and not for others, and for others later.
So whether it is asked, and what it says, depends on all that happened before.

Here it is a table in front of which lookups fail and are counted, and a session is any sequence of
questions and of changes of what fails.  In every state of a session (`Faithful`)

* what is remembered is what the table says, and
* the names that are remembered are the lower-case forms of those that were answered.

Hence a question has one of three outcomes (`Faithful.lookup_cases`), and each of them keeps this
(`Faithful.step`).  What can be seen of a session follows (`run_transparent`): its answers, its failures,
how often the table is asked, and what is compiled with the registry that it leaves.
-/

namespace LecturePlan

/-! ## 1. Sessions -/

/-- A table of which the lookups of some names fail, spelled exactly so. -/
def VoiceTable.failing (table : VoiceTable) (fails : String → Option RegistryError) :
    String → RegistryAnswer := fun name =>
  match fails name with
  | some e => .error e
  | none => (VoiceRegistry.lookup table name).1

/-- What happens in a session. -/
inductive RegistryEvent where
  /-- From now on these names fail, and no others. -/
  | outage (fails : String → Option RegistryError)
  | lookup (name : String)
  | hasVoice (name : String)

/-- A state of a session. -/
structure Session where
  /-- The registry that remembers, in front of one that counts its lookups. -/
  registry : Cached (Monitored (String → RegistryAnswer))
  /-- The names that fail at the moment. -/
  fails : String → Option RegistryError
  /-- The lower-case forms of the names that were answered, one for every answer. -/
  answered : List String

namespace Session

/-- Nothing has been asked, and nothing fails. -/
def start (table : VoiceTable) : Session where
  registry := .new (.new (table.failing fun _ => none))
  fails _ := none
  answered := []

/-- The state when a question about a name has been answered, or has failed. -/
def heed {α : Type} (x : Session) (name : String)
    (asked : Except RegistryError α × Cached (Monitored (String → RegistryAnswer))) : Session :=
  { x with
    registry := asked.2
    answered := match asked.1 with
      | .ok _ => x.answered ++ [Text.lowercase name]
      | .error _ => x.answered }

/-- Asking whether there is a voice is asking for its backend. -/
theorem heed_hasVoice (x : Session) (name : String) :
    x.heed name (VoiceRegistry.hasVoice x.registry name) =
      x.heed name (VoiceRegistry.lookup x.registry name) := by
  simp only [heed, VoiceRegistry.hasVoice]
  cases (VoiceRegistry.lookup x.registry name).1 <;> rfl

/-- The table fails for other names. -/
def setFails (table : VoiceTable) (x : Session) (fails : String → Option RegistryError) : Session :=
  { x with
    fails
    registry := { x.registry with inner := { x.registry.inner with inner := table.failing fails } } }

/-- What an event does. -/
def step (table : VoiceTable) (x : Session) : RegistryEvent → Session
  | .outage fails => x.setFails table fails
  | .lookup name => x.heed name (VoiceRegistry.lookup x.registry name)
  | .hasVoice name => x.heed name (VoiceRegistry.hasVoice x.registry name)

/-- The state after some events. -/
def run (table : VoiceTable) (events : List RegistryEvent) : Session :=
  events.foldl (step table) (start table)

/-! ## 2. What holds in every state -/

/-- **What is remembered is right**, and under the names that were answered. -/
structure Faithful (table : VoiceTable) (x : Session) : Prop where
  /-- Behind the counter stands the table, with what fails at the moment. -/
  inner : x.registry.inner = ⟨table.failing x.fails, ∅, x.registry.inner.lookups⟩
  answers (key : String) (answer : Option Backend) :
    x.registry.answers.get? key = some answer → answer = table.voices.get? key
  answered (key : String) : key ∈ x.answered ↔ (x.registry.answers.get? key).isSome = true

theorem faithful_start (table : VoiceTable) : (start table).Faithful table where
  inner := rfl
  answers _ _ h := by cases h
  answered key := by simp [start, Cached.new]

namespace Faithful

variable {table : VoiceTable} {x : Session}

/-- **The outcomes of a question.**  A name that was answered before is answered from memory.  Else the
table is asked; it fails and nothing is remembered, or its answer is given and remembered. -/
theorem lookup_cases (h : x.Faithful table) (name : String) :
    (Text.lowercase name ∈ x.answered ∧
        VoiceRegistry.lookup x.registry name = (.ok (table.backend? name), x.registry)) ∨
      Text.lowercase name ∉ x.answered ∧
        let asked := { x.registry.inner with lookups := x.registry.inner.lookups + 1 }
        (∃ e, x.fails name = some e ∧
            VoiceRegistry.lookup x.registry name = (.error e, { x.registry with inner := asked })) ∨
          x.fails name = none ∧
            VoiceRegistry.lookup x.registry name = (.ok (table.backend? name),
              ⟨asked, x.registry.answers.insert (Text.lowercase name) (table.backend? name)⟩) := by
  have hanswered := h.answered (Text.lowercase name)
  have hlookup : VoiceRegistry.lookup x.registry name = x.registry.lookup name := rfl
  rw [hlookup, Cached.lookup]
  cases hget : x.registry.answers.get? (Text.lowercase name) with
  | some answer =>
    refine .inl ⟨hanswered.mpr (by rw [hget]; rfl), ?_⟩
    rw [h.answers _ _ hget]
    rfl
  | none =>
    -- the counter has no outage of its own, so it passes on what the table says at the moment
    have hinner : VoiceRegistry.lookup x.registry.inner name =
        (table.failing x.fails name,
          { x.registry.inner with lookups := x.registry.inner.lookups + 1 }) := by
      rw [h.inner]
      rfl
    refine .inr ⟨fun hmem => ?_, ?_⟩
    · rw [hanswered, hget] at hmem
      cases hmem
    · dsimp only
      rw [hinner, VoiceTable.failing]
      cases hfails : x.fails name with
      | some e => exact .inl ⟨e, rfl, rfl⟩
      | none => exact .inr ⟨rfl, rfl⟩

/-- Every outcome of a question keeps what is remembered right. -/
theorem heed_lookup (h : x.Faithful table) (name : String) :
    (x.heed name (VoiceRegistry.lookup x.registry name)).Faithful table := by
  rcases h.lookup_cases name with ⟨hmem, hasked⟩ | ⟨hmem, ⟨e, hfails, hasked⟩ | ⟨hfails, hasked⟩⟩ <;>
    rw [hasked]
  · refine ⟨h.inner, h.answers, fun key => Iff.trans ?_ (h.answered key)⟩
    simp only [heed, List.mem_append, List.mem_singleton]
    exact ⟨fun hkey => hkey.elim id fun hkey => hkey ▸ hmem, .inl⟩
  · exact ⟨by rw [heed, h.inner], h.answers, h.answered⟩
  · refine ⟨by rw [heed, h.inner], fun key answer hget => ?_, fun key => ?_⟩
    · rw [heed, Table.get?_insert] at hget
      split at hget
      · next hkey => rw [← Option.some.inj hget, hkey, VoiceTable.backend?]
      · exact h.answers key answer hget
    · simp only [heed, List.mem_append, List.mem_singleton, Table.get?_insert, h.answered key]
      split <;> simp [*]

/-- Every event keeps what is remembered right. -/
theorem step (h : x.Faithful table) (event : RegistryEvent) : (x.step table event).Faithful table := by
  cases event with
  | outage fails => exact ⟨by rw [Session.step, setFails, h.inner], h.answers, h.answered⟩
  | lookup name => exact h.heed_lookup name
  | hasVoice name =>
    rw [Session.step, heed_hasVoice]
    exact h.heed_lookup name

theorem foldl (h : x.Faithful table) (events : List RegistryEvent) :
    (events.foldl (Session.step table) x).Faithful table := by
  induction events generalizing x with
  | nil => exact h
  | cons event events ih => exact ih (h.step event)

end Faithful

theorem faithful_run (table : VoiceTable) (events : List RegistryEvent) :
    (run table events).Faithful table := (faithful_start table).foldl events

/-! ## 3. What can be seen of a session -/

/-- **A question is answered right**, in a state, where `truth` is what the table says. -/
structure Right {α : Type} (x : Session) (name : String) (truth : Except RegistryError α)
    (asked : Except RegistryError α × Cached (Monitored (String → RegistryAnswer))) : Prop where
  /-- An answer is the answer of the table. -/
  ok (answer : α) : asked.1 = .ok answer → truth = .ok answer
  /-- A failure is the failure of the moment, for a name that was answered before in no case. -/
  error (e : RegistryError) :
    asked.1 = .error e ↔ x.fails name = some e ∧ Text.lowercase name ∉ x.answered
  /-- The table is asked if the name was answered before in no case, and else not. -/
  lookups : asked.2.inner.lookups =
    x.registry.inner.lookups + if Text.lowercase name ∈ x.answered then 0 else 1

namespace Faithful

variable {table : VoiceTable} {x : Session}

theorem right_lookup (h : x.Faithful table) (name : String) :
    x.Right name (VoiceRegistry.lookup table name).1 (VoiceRegistry.lookup x.registry name) := by
  rcases h.lookup_cases name with ⟨hmem, hasked⟩ | ⟨hmem, ⟨e, hfails, hasked⟩ | ⟨hfails, hasked⟩⟩ <;>
    rw [hasked]
  · exact ⟨fun _ => id, fun e => by simp [hmem], by simp [hmem]⟩
  · exact ⟨fun _ hok => (by cases hok), fun e' => by simp [hmem, hfails], by simp [hmem]⟩
  · exact ⟨fun _ => id, fun e => by simp [hfails], by simp [hmem]⟩

end Faithful

/-- What is right of a question is right of what is read from its answer. -/
theorem Right.map {α γ : Type} {x : Session} {name : String} {truth : Except RegistryError α}
    {asked : Except RegistryError α × Cached (Monitored (String → RegistryAnswer))}
    (h : x.Right name truth asked) (g : α → γ) :
    x.Right name (truth.map g) (asked.1.map g, asked.2) := by
  obtain ⟨e | answer, registry⟩ := asked
  · exact ⟨fun _ hok => (by cases hok), fun e' => by simpa [Except.map] using h.error e', h.lookups⟩
  · refine ⟨fun answer' hok => ?_, fun e => by simpa [Except.map] using h.error e, h.lookups⟩
    rw [h.ok answer rfl]
    exact hok

/-- There are as many remembered names as names that were answered. -/
theorem Faithful.size {table : VoiceTable} {x : Session} (h : x.Faithful table) :
    x.registry.answers.size = x.answered.dedup.length := by
  have hperm : x.registry.answers.keys.Perm x.answered.dedup := by
    refine (List.perm_ext_iff_of_nodup (Table.nodup_keys _) (List.nodup_dedup _)).mpr fun key => ?_
    rw [Table.mem_keys, List.mem_dedup, h.answered]
  rw [← Table.length_keys, hperm.length_eq]

/-- When nothing fails the registry answers as the table does, whatever has been remembered. -/
theorem Faithful.lookup_askAll {table : VoiceTable} {x : Session} (h : x.Faithful table)
    (hfails : ∀ name, x.fails name = none) (asked : List String) (name : String) :
    (VoiceRegistry.lookup (VoiceRegistry.askAll x.registry asked) name).1 =
      (VoiceRegistry.lookup table name).1 := by
  induction asked generalizing x with
  | nil =>
    rcases h.lookup_cases name with ⟨-, hasked⟩ | ⟨-, ⟨e, he, -⟩ | ⟨-, hasked⟩⟩
    · exact congrArg Prod.fst hasked
    · rw [hfails] at he
      cases he
    · exact congrArg Prod.fst hasked
  | cons first asked ih => exact ih (h.heed_lookup first) hfails

/-- **A registry that remembers is transparent.**  After any questions about names of which some failed
and others did later, every question is answered right, and as many names are remembered as were answered,
told apart by their lower-case forms.  If nothing fails from then on, what is compiled with the registry is
what is compiled with the table. -/
theorem run_transparent (table : VoiceTable) (events : List RegistryEvent) :
    let x := run table events
    (∀ name, x.Right name (VoiceRegistry.lookup table name).1 (VoiceRegistry.lookup x.registry name)) ∧
      (∀ name,
        x.Right name (VoiceRegistry.hasVoice table name).1 (VoiceRegistry.hasVoice x.registry name)) ∧
      x.registry.answers.size = x.answered.dedup.length ∧
      ∀ (s : Scene) (c : Config) (root : Markup.Element),
        (compile s c root (x.setFails table fun _ => none).registry).1 = (compile s c root table).1 := by
  intro x
  have h : x.Faithful table := faithful_run table events
  refine ⟨h.right_lookup, fun name => (h.right_lookup name).map _, h.size, fun s c root => ?_⟩
  refine compile_eq_of_sameAnswers s c root fun asked name => ?_
  have hfixed : VoiceRegistry.askAll table asked = table :=
    VoiceRegistry.askAll_of_fixed (fun _ => rfl) asked
  rw [hfixed]
  exact (h.step (.outage fun _ => none)).lookup_askAll (fun _ => rfl) asked name

end Session

end LecturePlan
