-- SUMMARY: What wrapping a fault in operations changes about it, and what it does not.
import ExasolClient.Fault
import Mathlib.Data.List.Infix

/-!
# Wrapped faults

A fault travels outwards through operations, each of which wraps it. The wrappers show in its text
and in the faults behind it and nowhere else: every question about a fault is put to its root, and
a wrapper has the root of what it wraps. `Visits` goes from a fault to what is directly behind it,
as far as that goes. Main statement: `wrapped_transparent`.
-/

namespace ExasolClient.Fault

/-! ## The faults behind a fault -/

/-- The fault directly behind a fault. -/
def source? : Fault → Option Fault
  | .connection _ _ source | .protocol _ source => source
  | .context _ inner => some inner
  | .io message => some (.foreign message)
  | .query _ | .type _ | .config _ | .argument _ | .cancelled | .serialization _
  | .foreign _ => none

/-- Who goes from a fault to the one directly behind it, and on to the end, visits these. -/
inductive Visits : Fault → List Fault → Prop where
  | nothing {f : Fault} : f.source? = none → Visits f []
  | next {f source : Fault} {rest : List Fault} :
      f.source? = some source → Visits source rest → Visits f (source :: rest)

theorem sources_eq (f : Fault) :
    f.sources = f.source?.elim [] fun source => source :: source.sources := by
  cases f with
  | connection _ _ source | protocol _ source => cases source <;> simp [sources, source?]
  | context | query | type | config | argument | io | cancelled | serialization | foreign =>
    simp [sources, source?]

theorem visits_sources : (f : Fault) → f.Visits f.sources
  | .connection _ _ (some source) | .protocol _ (some source) => .next rfl (visits_sources source)
  | .context _ inner => .next rfl (visits_sources inner)
  | .io _ => .next rfl (.nothing rfl)
  | .connection _ _ none | .protocol _ none | .query _ | .type _ | .config _ | .argument _
  | .cancelled | .serialization _ | .foreign _ => .nothing rfl

/-- Just the sources of a fault are visited from it. -/
theorem visits_iff {f : Fault} {visited : List Fault} : f.Visits visited ↔ visited = f.sources := by
  constructor
  · intro h
    induction h with
    | nothing hnone => rw [sources_eq, hnone]; rfl
    | next hsource _ ih => rw [sources_eq, hsource, ih]; rfl
  · rintro rfl
    exact f.visits_sources

/-! ## Wrappers -/

/-- A fault within operations, the outermost of them first. -/
def wrapped (f : Fault) (operations : List String) : Fault := operations.foldr .context f

variable (f : Fault) (operation : String) (operations : List String)

theorem wrapped_cons :
    f.wrapped (operation :: operations) = .context operation (f.wrapped operations) := rfl

theorem root_wrapped : (f.wrapped operations).root = f.root := by
  induction operations with
  | nil => rfl
  | cons operation operations ih => exact ih

theorem message_context (inner : Fault) :
    (context operation inner).message = operation ++ ": " ++ inner.message := rfl

theorem message_wrapped : (f.wrapped operations).message =
    String.join (operations.map (· ++ ": ")) ++ f.message := by
  induction operations with
  | nil => simp [wrapped]
  | cons operation operations ih =>
    rw [wrapped_cons, message_context, ih]
    simp [String.append_assoc]

/-- A wrapped fault and its sources: the wrappers from the outermost one on, the fault, its own. -/
theorem sources_wrapped : f.wrapped operations :: (f.wrapped operations).sources =
    operations.tails.map f.wrapped ++ f.sources := by
  induction operations with
  | nil => rfl
  | cons operation operations ih =>
    rw [wrapped_cons, sources, ih, List.tails]
    rfl

/-! ## Questions about a fault -/

/-- Two faults about which every question has the same answer. -/
structure Agrees (f g : Fault) : Prop where
  isStaleHandle : f.isStaleHandle = g.isStaleHandle
  isServerError : f.isServerError = g.isServerError
  isConnectionError : f.isConnectionError = g.isConnectionError
  isArgumentError : f.isArgumentError = g.isArgumentError
  sqlCode : f.sqlCode = g.sqlCode
  connectionKind : f.connectionKind = g.connectionKind

theorem agrees_of_root {f g : Fault} (h : f.root = g.root) : f.Agrees g where
  isStaleHandle := by rw [Fault.isStaleHandle, h]; rfl
  isServerError := by rw [Fault.isServerError, h]; rfl
  isConnectionError := by rw [Fault.isConnectionError, h]; rfl
  isArgumentError := by rw [Fault.isArgumentError, h]; rfl
  sqlCode := by rw [Fault.sqlCode, h]; rfl
  connectionKind := by rw [Fault.connectionKind, h]; rfl

/-- The classes to which a fault belongs, of those that exclude each other. -/
def classes (f : Fault) : List Bool := [f.isServerError, f.isConnectionError, f.isArgumentError]

theorem classes_exclusive : f.classes.count true ≤ 1 := by
  unfold classes isServerError isConnectionError isArgumentError
  cases f.root <;> simp

variable {f}

theorem isServerError_of_root {q : QueryFault} (h : f.root = .query q) :
    f.isServerError = true := by
  unfold isServerError
  rw [h]

/-- Only the server tells that a handle is lost. -/
theorem isServerError_of_isStaleHandle (h : f.isStaleHandle = true) : f.isServerError = true := by
  unfold isStaleHandle at h
  split at h
  next error hroot => exact isServerError_of_root hroot
  next => cases h

/--
A fault within operations has the root of the fault and answers every question as that does. Its
text is that of the fault behind the names of the operations. Who goes from one fault to the one
behind it comes from the outermost wrapper through the inner ones to the fault and to those behind
that. Whatever the fault, it is at most one of an error of the server, of the connection and of the
arguments, and a lost handle is an error of the server.
-/
theorem wrapped_transparent (f : Fault) (operations : List String) :
    (f.wrapped operations).root = f.root ∧
    (f.wrapped operations).Agrees f ∧
    (f.wrapped operations).message = String.join (operations.map (· ++ ": ")) ++ f.message ∧
    (∀ visited, (f.wrapped operations).Visits visited ↔
      f.wrapped operations :: visited = operations.tails.map f.wrapped ++ f.sources) ∧
    (∀ visited, f.Visits visited ↔ visited = f.sources) ∧
    f.classes.count true ≤ 1 ∧ (f.isStaleHandle = true → f.isServerError = true) := by
  refine ⟨f.root_wrapped operations, agrees_of_root (f.root_wrapped operations),
    f.message_wrapped operations, fun visited => ?_, fun _ => visits_iff, f.classes_exclusive,
    isServerError_of_isStaleHandle⟩
  rw [visits_iff, ← sources_wrapped, List.cons.injEq]
  exact ⟨fun h => ⟨rfl, h⟩, And.right⟩

/-- A lost handle within a query within a fetch. -/
theorem wrapped_transparent_lost :
    let f : Fault := .query (.ofServer staleHandleText (some "00000"))
    let operations := ["Unable to query", "Unable to fetch"]
    f.isStaleHandle = true ∧ f.isServerError = true ∧
      (f.wrapped operations).isStaleHandle = true ∧
      (f.wrapped operations).sqlCode = some "00000" := by
  intro f operations
  have hlost : f.isStaleHandle = true := by decide
  obtain ⟨-, hagrees, -, -, -, -, hserver⟩ := wrapped_transparent f operations
  exact ⟨hlost, hserver hlost, hagrees.isStaleHandle.trans hlost, hagrees.sqlCode⟩

end ExasolClient.Fault
