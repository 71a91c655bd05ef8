import Phrasebook.Log.Context
import Phrasebook.Log.Pipeline
import Phrasebook.Log.Record

/-!
# Phrasebook.Log.Session

What a program does with the log: it configures it, asks for loggers, and logs events through them. A
logger takes its renderer from the pipeline at its first call after a configuration, and keeps it,
whatever configurations come later.

* `Session.keep`: what a call does to its logger; `lookup_keep_self`, `lookup_keep_of_ne`.
* `Session.after`: what a step does to the session.
* `Session.answer`: what comes of a call, a refusal or the record of a line.
-/

namespace Phrasebook
namespace Log

/-- The arguments of a configuration. -/
structure Configuration where
  settings : Settings
  logLevel : Text
  isProduction : Option Bool

/-- A logger that the program asked for. The number tells loggers apart that are alike. -/
structure Handle where
  number : Nat
  caller : Option Text
  logger : Logger
deriving DecidableEq, Repr

structure Call (α : Type) where
  handle : Handle
  severity : Severity
  event : Text
  fields : List (Text × α)

inductive Step (α : Type) where
  | configure (configuration : Configuration)
  | log (call : Call α)

/-- How renderers deal with values: the values of texts, and why a value has no place in a line. -/
structure Rendering (α ε : Type) where
  ofText : Text → α
  fault? : Renderer → α → Option ε

inductive Refusal (ε : Type) where
  | collision (collision : Collision)
  | unrendered (fault : ε)

/-- Whether a call is written, and its record where lines are made of records. -/
structure Outcome (α : Type) where
  written : Bool
  record : Option (Dictionary α)

namespace Call

variable {α ε : Type}

def collision? (call : Call α) : Option Collision :=
  Log.collision? call.severity (call.fields.map Prod.fst)

def record (call : Call α) (ofText : Text → α) : Dictionary α :=
  Log.record ofText (call.handle.logger.context call.handle.caller) call.severity call.event
    call.fields

/-- The fault of the first value of a call's record that a renderer cannot deal with. -/
def fault? (call : Call α) (rendering : Rendering α ε) (renderer : Renderer) : Option ε :=
  (call.record rendering.ofText).entries.findSome? fun entry => rendering.fault? renderer entry.2

end Call

/-- The pipeline of a session, and the renderers that loggers keep. -/
structure Session where
  pipeline : Pipeline
  kept : List (Handle × Renderer)

namespace Session

variable {α ε : Type}

def initial : Session :=
  ⟨.initial, []⟩

/-- The renderer of a logger: the one that it keeps, or else that of the pipeline. -/
def rendererOf? (session : Session) (handle : Handle) : Option Renderer :=
  (session.kept.lookup handle).or session.pipeline.renderer

/-- The session when a logger keeps its renderer, if it has one. -/
def keep (session : Session) (handle : Handle) : Session :=
  match session.rendererOf? handle with
  | some renderer => { session with kept := (handle, renderer) :: session.kept }
  | none => session

@[simp]
theorem pipeline_keep (session : Session) (handle : Handle) :
    (session.keep handle).pipeline = session.pipeline := by
  rw [keep]
  cases session.rendererOf? handle <;> rfl

@[simp]
theorem lookup_keep_self (session : Session) (handle : Handle) :
    (session.keep handle).kept.lookup handle = session.rendererOf? handle := by
  rw [keep]
  cases hrenderer : session.rendererOf? handle with
  | some renderer => exact List.lookup_cons_self
  | none => exact (Option.or_eq_none_iff.mp hrenderer).1

@[simp]
theorem lookup_keep_of_ne (session : Session) {handle other : Handle} (h : other ≠ handle) :
    (session.keep handle).kept.lookup other = session.kept.lookup other := by
  rw [keep]
  cases session.rendererOf? handle with
  | some renderer => rw [List.lookup_cons, beq_eq_false_iff_ne.mpr h]
  | none => rfl

def after (session : Session) : Step α → Session
  | .configure ⟨settings, logLevel, isProduction⟩ =>
    { session with pipeline := (session.pipeline.configure settings logLevel isProduction).pipeline }
  | .log call => session.keep call.handle

/-- What comes of a call. Its line is rendered before the threshold is looked at. -/
def answer (rendering : Rendering α ε) (session : Session) (call : Call α) :
    Except (Refusal ε) (Outcome α) :=
  match call.collision? with
  | some collision => .error (.collision collision)
  | none =>
    let renderer := session.rendererOf? call.handle
    match renderer.bind (call.fault? rendering) with
    | some fault => .error (.unrendered fault)
    | none =>
      let written := session.pipeline.passes call.severity
      .ok ⟨written,
        if written && renderer == some .json then some (call.record rendering.ofText) else none⟩

end Session
end Log
end Phrasebook
