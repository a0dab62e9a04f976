import PlugWatch.Board
import PlugWatch.Color.Protocol
import PlugWatch.Color.Session
import PlugWatch.Config
/-!
# The colour link

The sessions of all input ports share one bit timer, which runs while some session holds it.

## Main Definitions

* `ColorLink` : the sessions and the length of the reset hold.
* `ColorLink.start`, `ColorLink.stop` : begin and release a session.
* `ColorLink.tick` : one period of the bit timer, for every session that holds it.
-/

namespace PlugWatch

/-- The colour sessions of all input ports. -/
structure ColorLink where
  sessions : PerPort Session := .const {}
  /-- Periods of the reset hold. -/
  initDelay : UInt16 := 0
  deriving DecidableEq, Repr

namespace ColorLink

instance : Inhabited ColorLink := ⟨{}⟩

/-- A link without sessions. -/
def ofConfig (config : LinkConfig) : ColorLink := { initDelay := config.initDelayTicks }

/-- Whether some session holds the bit timer. -/
def isRunning (link : ColorLink) : Bool := link.sessions.any fun session => session.inUse

/-- The step of a port's session. -/
def state (link : ColorLink) (port : Port) : LinkState := (link.sessions.get port).state

/-- Begins a session; the first one arms the bit timer. -/
def start (link : ColorLink) (port : Port) (command : UInt8) : ColorLink × List Notice :=
  let started := Notice.sessionStarted port command
  ({ link with sessions := link.sessions.modify port fun session => session.start command },
    if link.isRunning then [started] else [.bitTimerArmed, started])

/-- Whether the session of a port is over, or there was none. -/
def ready (link : ColorLink) (port : Port) : Bool := link.state port = .idle

/-- Releases a session; the last one cancels the bit timer. -/
def stop (link : ColorLink) (port : Port) : ColorLink × List Notice :=
  let stopped := { link with sessions := link.sessions.modify port Session.stop }
  (stopped, if link.isRunning && !stopped.isRunning then [.bitTimerCancelled] else [])

/-- The bytes that the last session of a port took in. -/
def response (link : ColorLink) (port : Port) : Block := (link.sessions.get port).buffer

instance : ColorProtocol ColorLink := ⟨start, ready, stop, response⟩

/-- One period of the bit timer for one port. -/
def tickPort (link : ColorLink) (port : Port) (board : Board) :
    ColorLink × Board × List Notice :=
  let session := link.sessions.get port
  if session.inUse then
    let (stepped, lines) := session.step link.initDelay (board.inputs.get port).lines
    ({ link with sessions := link.sessions.set port stepped },
      board.modifyInputLines port fun _ => lines,
      if session.state = .done then [.transferComplete port] else [])
  else (link, board, [])

/-- One period of the bit timer: every session that holds it advances, in port order. -/
def tick (link : ColorLink) (board : Board) : ColorLink × Board × List Notice :=
  Port.all.foldl
    (fun (link, board, notices) port =>
      let (link, board, more) := link.tickPort port board
      (link, board, notices ++ more))
    (link, board, [])

end ColorLink

end PlugWatch
