import ProgramModel.Proofs.Session.Subjects

/-!
Sessions without memory. Every request leaves as many levels open as it found, so the
requests before it, answered or refused, have no effect on the answer to one. Main
statement: `session_balanced`.
-/

namespace ProgramModel

namespace Session

variable {s t : Session}

/-! ### One request -/

/-- No request changes the options. -/
@[simp]
theorem options_ask (s : Session) (r : Request) : (s.ask r).2.options = s.options := by
  unfold ask
  cases r.document <;> rfl

/-- Each request leaves as many levels open as it found. -/
@[simp]
theorem depth_ask (s : Session) (r : Request) : (s.ask r).2.gauge.depth = s.gauge.depth := by
  unfold ask
  cases r.document with
  | error fault => rfl
  | ok v => exact (r.subject.regular_reading v).balanced.depth s.options s.gauge

/-- An answer depends on the options and on how many levels are open. -/
theorem ask_congr (r : Request) (options : s.options = t.options)
    (depth : s.gauge.depth = t.gauge.depth) : (s.ask r).1 = (t.ask r).1 := by
  unfold ask
  cases r.document with
  | error fault => rfl
  | ok v =>
    have given := (r.subject.regular_reading v).balanced.result s.options depth
    rw [options] at given ⊢
    exact given

/-! ### Requests in sequence -/

/-- Each request is answered as if it were the first one. -/
theorem askAll_eq_map (s : Session) (requests : List Request) :
    s.askAll requests = requests.map fun r => (s.ask r).1 := by
  induction requests generalizing s with
  | nil => rfl
  | cons r rest ih =>
    have later : (s.ask r).2.askAll rest = rest.map fun q => (s.ask q).1 := by
      rw [ih]
      apply List.map_congr_left
      intro q _
      exact ask_congr q (options_ask s r) (depth_ask s r)
    rw [List.map_cons, ← later]
    rfl

end Session

/-- A reading of any kind, with or without a fault, leaves as many levels open as it
found, opens no more than are allowed and closes none that is not open. The answers of a
session are those of a new one for each request. -/
theorem session_balanced (o : Options) :
    (∀ (s : Subject) (v : Json) (g : Gauge), g.depth ≤ o.maxDepth →
      ((s.reading v).outcome o g).2.depth = g.depth ∧
      ((s.reading v).outcome o g).2.peak ≤ max g.peak o.maxDepth ∧
      ((s.reading v).outcome o g).2.spurious = g.spurious) ∧
    ∀ requests, (Session.start o).askAll requests =
      requests.map fun r => ((Session.start o).ask r).1 := by
  constructor
  · intro s v g within
    have balanced := (s.regular_reading v).balanced
    exact ⟨balanced.depth o g, balanced.peak within, balanced.spurious o g⟩
  · intro requests
    exact Session.askAll_eq_map (.start o) requests

/-! ### A session with a fault of depth in the middle -/

namespace Sample

def voidType : Json := .obj [("type_kind", .str "Tvoid")]

def pointerType : Json :=
  .obj [("type_kind", .str "Tptr"), ("kind", .str "Pk_pointer"), ("type", voidType)]

/-- A pointer is one level too deep for a limit of one. -/
def requests : List Request :=
  [⟨.type, .ok voidType⟩, ⟨.type, .ok pointerType⟩, ⟨.type, .ok voidType⟩]

end Sample

example : (Session.start (Options.default.withLimit 1)).askAll Sample.requests =
    [.ok (.type .void), .error (.depthExceeded 1 "type"), .ok (.type .void)] := by
  decide +kernel

/-- Where a type is refused for the limit, the gauge is left as it was. -/
theorem session_balanced_at_limit :
    (Gauge.mk 1 1 0).depth ≤ (Options.default.withLimit 1).maxDepth ∧
    ((Subject.type.reading Sample.voidType).outcome (Options.default.withLimit 1) ⟨1, 1, 0⟩).1 =
      .error (.depthExceeded 1 "type") ∧
    ((Subject.type.reading Sample.voidType).outcome (Options.default.withLimit 1)
      ⟨1, 1, 0⟩).2.depth = 1 := by
  have within : (Gauge.mk 1 1 0).depth ≤ (Options.default.withLimit 1).maxDepth := by decide
  obtain ⟨kept, _⟩ := (session_balanced (Options.default.withLimit 1)).1 .type Sample.voidType
    ⟨1, 1, 0⟩ within
  exact ⟨within, by decide +kernel, kept⟩

end ProgramModel
