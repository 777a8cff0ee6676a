import QuadOpt.Log

/-!
# Results with a trace

A solve gives a result, and on the way reports to the log and calls a native method. The trace
holds all of this in order, so that laws about a solve can speak of what it did.
-/

namespace QuadOpt

/-- One thing done on the way: a log line, or a native call `c`. -/
inductive Event (C : Type) where
  | log (line : Log.Line)
  | call (c : C)
  deriving DecidableEq, Repr

/-- A value and the events that led to it. -/
structure Traced (C α : Type) where
  events : List (Event C)
  value : α

namespace Traced

variable {C D α β : Type}

instance : Monad (Traced C) where
  pure a := ⟨[], a⟩
  bind x f := ⟨x.events ++ (f x.value).events, (f x.value).value⟩

def log (line : Log.Line) : Traced C Unit := ⟨[.log line], ()⟩

def call (c : C) : Traced C Unit := ⟨[.call c], ()⟩

@[simp] theorem events_pure (a : α) : (pure a : Traced C α).events = [] := rfl

@[simp] theorem value_pure (a : α) : (pure a : Traced C α).value = a := rfl

@[simp] theorem events_bind (x : Traced C α) (f : α → Traced C β) :
    (x >>= f).events = x.events ++ (f x.value).events := rfl

@[simp] theorem value_bind (x : Traced C α) (f : α → Traced C β) :
    (x >>= f).value = (f x.value).value := rfl

instance : LawfulMonad (Traced C) :=
  LawfulMonad.mk' (Traced C) (fun x => by simp [Functor.map]) (fun a f => by simp [bind, pure])
    (fun x f g => by simp [bind])

/-- What follows matters at the one value that there is. -/
theorem bind_congr_value {x : Traced C α} {f g : α → Traced C β} (h : f x.value = g x.value) :
    x >>= f = x >>= g := by
  simp only [bind, h]

/-- The log lines of a trace, in order. -/
def logs (x : Traced C α) : List Log.Line :=
  x.events.filterMap fun
    | .log line => some line
    | .call _ => none

/-- The native calls of a trace, in order. -/
def calls (x : Traced C α) : List C :=
  x.events.filterMap fun
    | .log _ => none
    | .call c => some c

@[simp] theorem calls_pure (a : α) : (pure a : Traced C α).calls = [] := rfl

@[simp] theorem calls_bind (x : Traced C α) (f : α → Traced C β) :
    (x >>= f).calls = x.calls ++ (f x.value).calls := by
  simp [calls]

@[simp] theorem calls_log (line : Log.Line) : (log line : Traced C Unit).calls = [] := rfl

@[simp] theorem calls_call (c : C) : (call c).calls = [c] := rfl

@[simp] theorem logs_pure (a : α) : (pure a : Traced C α).logs = [] := rfl

@[simp] theorem logs_bind (x : Traced C α) (f : α → Traced C β) :
    (x >>= f).logs = x.logs ++ (f x.value).logs := by
  simp [logs]

@[simp] theorem logs_log (line : Log.Line) : (log line : Traced C Unit).logs = [line] := rfl

@[simp] theorem logs_call (c : C) : (call c).logs = [] := rfl

@[simp] theorem events_map (f : α → β) (x : Traced C α) : (f <$> x).events = x.events := by
  rw [map_eq_pure_bind, events_bind, events_pure, List.append_nil]

@[simp] theorem value_map (f : α → β) (x : Traced C α) : (f <$> x).value = f x.value := rfl

@[simp] theorem calls_map (f : α → β) (x : Traced C α) : (f <$> x).calls = x.calls := by
  rw [map_eq_pure_bind, calls_bind, calls_pure, List.append_nil]

@[simp] theorem logs_map (f : α → β) (x : Traced C α) : (f <$> x).logs = x.logs := by
  rw [map_eq_pure_bind, logs_bind, logs_pure, List.append_nil]

/-- The same trace with native calls under another name. -/
def mapCalls (f : C → D) (x : Traced C α) : Traced D α :=
  ⟨x.events.map fun
    | .log line => .log line
    | .call c => .call (f c), x.value⟩

@[simp] theorem logs_mapCalls (f : C → D) (x : Traced C α) : (x.mapCalls f).logs = x.logs := by
  simp only [logs, mapCalls, List.filterMap_map]
  congr 1
  funext e
  cases e <;> rfl

theorem mapCalls_bind (f : C → D) (x : Traced C α) (g : α → Traced C β) :
    (x >>= g).mapCalls f = x.mapCalls f >>= fun a => (g a).mapCalls f := by
  simp [mapCalls, bind]

theorem mapCalls_map (f : C → D) (g : α → β) (x : Traced C α) :
    (g <$> x).mapCalls f = g <$> x.mapCalls f := by
  rw [map_eq_pure_bind, map_eq_pure_bind, mapCalls_bind]
  rfl

end Traced

end QuadOpt
