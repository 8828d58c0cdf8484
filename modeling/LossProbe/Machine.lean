/-! # Machines that go on by events

A machine answers each event with a new state and a list of things it does. `run` takes it through
a whole list of events and puts what it does in order; by `run_append` it can be stopped anywhere
and taken up again. -/

namespace LossProbe.Machine

variable {State Event Action : Type}

/-- Go on by several events. -/
def run (step : State → Event → State × List Action) (s : State) :
    List Event → State × List Action
  | [] => (s, [])
  | e :: es =>
    let next := step s e
    (run step next.1 es).map id (next.2 ++ ·)

/-- A run can be cut anywhere: the second part goes on from where the first led. -/
theorem run_append (step : State → Event → State × List Action) (s : State) (es fs : List Event) :
    run step s (es ++ fs) =
      (run step (run step s es).1 fs).map id ((run step s es).2 ++ ·) := by
  induction es generalizing s with
  | nil => rfl
  | cons e es ih =>
    simp only [List.cons_append, run, ih, Prod.map_fst, Prod.map_snd, id_eq]
    ext1 <;> simp

/-- What holds at the start and after every step holds after every run, where it may speak of what
the machine has done so far. -/
theorem run_induction {step : State → Event → State × List Action}
    {motive : State → List Action → Prop} {s : State} (start : motive s [])
    (next : ∀ s past e, motive s past → motive (step s e).1 (past ++ (step s e).2))
    (es : List Event) : motive (run step s es).1 (run step s es).2 := by
  suffices ∀ past, motive s past → motive (run step s es).1 (past ++ (run step s es).2) by
    simpa using this [] start
  clear start
  intro past h
  induction es generalizing s past with
  | nil => simpa [run] using h
  | cons e es ih =>
    have hrest := ih _ (next s past e h)
    simpa only [run, Prod.map_fst, Prod.map_snd, id_eq, List.append_assoc] using hrest

end LossProbe.Machine
