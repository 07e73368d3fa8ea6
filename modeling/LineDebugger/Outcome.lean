import LineDebugger.Event

/-!
# Outcomes

Every operation of the debugger answers with an outcome: the state it leaves behind, the events it
caused and the error that ended it, if one did. The state and the events are there in either case,
because an operation that fails keeps what it did before it failed.

## Main definitions

* `Outcome` — state, events and possibly an error
* `Outcome.quiet`, `Outcome.fail` — an outcome without events, without and with an error
* `Outcome.andThen` — a second operation after the first, unless that failed
* `Outcome.map`, `Outcome.mapError` — another view of the state, or of the error
-/

namespace LineDebugger

/-- What an operation left behind, what it caused and how it failed. -/
structure Outcome (σ ε : Type) where
  state : σ
  events : List Event
  error? : Option ε

namespace Outcome

variable {σ τ ε δ : Type}

/-- Nothing happened on the way to this state. -/
def quiet (state : σ) : Outcome σ ε := ⟨state, [], none⟩

/-- The operation came to this state by these events. -/
def done (state : σ) (events : List Event) : Outcome σ ε := ⟨state, events, none⟩

/-- The operation failed in this state. -/
def fail (state : σ) (error : ε) : Outcome σ ε := ⟨state, [], some error⟩

/-- Another view of the state. -/
def map (f : σ → τ) (o : Outcome σ ε) : Outcome τ ε := ⟨f o.state, o.events, o.error?⟩

/-- Another view of the error. -/
def mapError (f : ε → δ) (o : Outcome σ ε) : Outcome σ δ := ⟨o.state, o.events, o.error?.map f⟩

/-- The same outcome after some events. -/
def after (events : List Event) (o : Outcome σ ε) : Outcome σ ε :=
  { o with events := events ++ o.events }

/-- Goes on from the state, unless the operation failed. -/
def andThen (o : Outcome σ ε) (next : σ → Outcome σ ε) : Outcome σ ε :=
  match o.error? with
  | none => (next o.state).after o.events
  | some _ => o

@[simp] theorem quiet_state (s : σ) : (quiet s : Outcome σ ε).state = s := rfl

@[simp] theorem quiet_events (s : σ) : (quiet s : Outcome σ ε).events = [] := rfl

@[simp] theorem quiet_error? (s : σ) : (quiet s : Outcome σ ε).error? = none := rfl

@[simp] theorem done_state (s : σ) (es : List Event) : (done s es : Outcome σ ε).state = s := rfl

@[simp] theorem done_events (s : σ) (es : List Event) : (done s es : Outcome σ ε).events = es := rfl

@[simp] theorem done_error? (s : σ) (es : List Event) : (done s es : Outcome σ ε).error? = none :=
  rfl

@[simp] theorem fail_state (s : σ) (e : ε) : (fail s e).state = s := rfl

@[simp] theorem fail_events (s : σ) (e : ε) : (fail s e).events = [] := rfl

@[simp] theorem fail_error? (s : σ) (e : ε) : (fail s e).error? = some e := rfl

@[simp] theorem map_state (f : σ → τ) (o : Outcome σ ε) : (o.map f).state = f o.state := rfl

@[simp] theorem map_events (f : σ → τ) (o : Outcome σ ε) : (o.map f).events = o.events := rfl

@[simp] theorem map_error? (f : σ → τ) (o : Outcome σ ε) : (o.map f).error? = o.error? := rfl

@[simp] theorem after_state (es : List Event) (o : Outcome σ ε) : (o.after es).state = o.state :=
  rfl

@[simp] theorem after_events (es : List Event) (o : Outcome σ ε) :
    (o.after es).events = es ++ o.events := rfl

@[simp] theorem after_error? (es : List Event) (o : Outcome σ ε) :
    (o.after es).error? = o.error? := rfl

@[simp] theorem after_nil (o : Outcome σ ε) : o.after [] = o := rfl

theorem after_after (es fs : List Event) (o : Outcome σ ε) :
    (o.after fs).after es = o.after (es ++ fs) := by
  simp [after]

/-- Nothing follows an operation that failed. -/
theorem andThen_of_error? {o : Outcome σ ε} {e : ε} (h : o.error? = some e)
    (next : σ → Outcome σ ε) : o.andThen next = o := by
  simp [andThen, h]

/-- After an operation that succeeded comes the next one. -/
theorem andThen_of_success {o : Outcome σ ε} (h : o.error? = none) (next : σ → Outcome σ ε) :
    o.andThen next = (next o.state).after o.events := by
  simp [andThen, h]

end Outcome

end LineDebugger
