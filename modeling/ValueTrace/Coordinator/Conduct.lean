import ValueTrace.Coordinator.Basic

/-!
# Conducting a run

What a run waits for comes from its surroundings: the parser, the files, the launcher, the network
and the inspector.  One round asks them for what the run needs next and lets the run advance.

## Main definitions

* `Surroundings` : what runs need of the world, in any monad.
* `Coordinator.attend` : one round of a run.
-/

namespace ValueTrace

open Coordinator
open Inspector (Connection TransportError)

namespace Coordinator

/-- What comes from an inspector while a run waits. -/
inductive Signal where
  | frame (text : String)
  | hangUp
  /-- Nothing comes before the time of the wait is over. -/
  | silence
deriving Inhabited

/-- The event that a signal is for a run. -/
def Signal.event (run : RunId) : Signal → Event
  | .frame text => .frame run text
  | .hangUp => .hangUp run
  | .silence => .poll run (some .elapsed)

/-- What runs need of the world. -/
structure Surroundings (m : Type → Type) where
  parse : FilePath → m (Except ParseError Program)
  resolve : FilePath → m FilePath
  launch : LaunchSpec → m (Except LaunchError Debuggee)
  /-- Connects a run to an inspector. -/
  connect : RunId → String → m (Except TransportError Unit)
  /-- The next signal from the inspector of a run. -/
  listen : RunId → Connection → m Signal
  /-- Stops a debuggee, gracefully or not. -/
  shutDown : Debuggee → Bool → m Unit

variable {m : Type → Type} [Monad m]

/-- One round of a run.  A cancelled run asks for nothing more. -/
def attend (w : Surroundings m) (c : Coordinator) (r : Run) : m Coordinator := do
  match r.stage with
  | .parsing _ =>
    if r.cancelled then return c.poll r.id none
    else return c.poll r.id (some (.parsed (← w.parse r.request.target)))
  | .resolving _ => return c.poll r.id (some (.resolved (← w.resolve r.request.target)))
  | .launching _ _ _ =>
    if r.cancelled then return c.poll r.id none
    else return c.poll r.id (some (.launched (← w.launch r.launchSpec)))
  | .connecting _ _ debuggee _ =>
    if r.cancelled then return c.poll r.id none
    else return c.poll r.id (some (.connected (← w.connect r.id debuggee.endpoint)))
  | .stepping engine _ awake =>
    if awake || r.cancelled || !engine.isBlocked then return c.poll r.id none
    else return c.apply ((← w.listen r.id engine.connection).event r.id)
  | .settling engine _ _ =>
    if r.cancelled || engine.connection.isClosed || c.settings.settleDelay.isZero then
      return c.poll r.id none
    else return c.apply ((← w.listen r.id engine.connection).event r.id)
  | .closing _ _ _ => return c.poll r.id (some .closed)
  | .stopping debuggee outcome =>
    w.shutDown debuggee (hasResult outcome)
    return c.poll r.id (some .stopped)
  | _ => return c.poll r.id none

end Coordinator

end ValueTrace
