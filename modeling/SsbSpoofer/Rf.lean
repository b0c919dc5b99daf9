import SsbSpoofer.Basic

/-!
# The RF handler

`RfHandler` (`rf_handler.cc`) wraps the srsRAN RF device. Its object state is the
`initialized_` flag and whether the device is open; every call it makes on the device is an
answer of the world. `start_tx` and `stop_tx` make no device call at all (srsRAN starts the
transmit stream on the first send), so they succeed exactly on an initialised handler.

The stream and file operations of the two attack stages are recorded as `StreamOp`s; the
cleanup laws of `SsbSpoofer.Main` are laws of that record.
-/

namespace SsbSpoofer

/-- The object state of an `RfHandler`. -/
structure RfHandler where
  initialized : Bool
  deviceOpen : Bool
deriving DecidableEq, Repr

/-- A freshly constructed handler. -/
def RfHandler.new : RfHandler := ⟨false, false⟩

/-- The answers of the device calls `RfHandler::init` checks: `srsran_rf_open` and the two gain
settings. The sample-rate and frequency settings are not checked by the code. -/
structure RfInitAnswers where
  opens : Bool
  rxGainSet : Bool
  txGainSet : Bool
deriving DecidableEq, Repr

namespace RfHandler

/-- `RfHandler::init`: open the device, set the receive gain, the rates, the frequencies and
the transmit gain; a failed gain setting closes the device again. -/
def init (rf : RfHandler) (a : RfInitAnswers) : Bool × RfHandler :=
  if rf.initialized then (false, rf)
  else if !a.opens then (false, rf)
  else if !a.rxGainSet then (false, { rf with deviceOpen := false })
  else if !a.txGainSet then (false, { rf with deviceOpen := false })
  else (true, { initialized := true, deviceOpen := true })

/-- `RfHandler::start_rx`, given the answer of `srsran_rf_start_rx_stream`. -/
def startRx (rf : RfHandler) (streamStarts : Bool) : Bool := rf.initialized && streamStarts

/-- `RfHandler::start_tx`: no device call. -/
def startTx (rf : RfHandler) : Bool := rf.initialized

end RfHandler

/-- A stream or file operation of the two attack stages. -/
inductive StreamOp
  /-- The sample file was asked to open, with the outcome. -/
  | openSink (ok : Bool)
  | closeSink
  | startRx (ok : Bool)
  | stopRx
  | startTx (ok : Bool)
  | stopTx
deriving DecidableEq, Repr

/-- The streams and the sample file that are open. -/
structure OpenStreams where
  rx : Bool
  tx : Bool
  sink : Bool
deriving DecidableEq, Repr

/-- Nothing open. -/
def OpenStreams.none : OpenStreams := ⟨false, false, false⟩

/-- One operation against what is open: a successful start or open of something already open,
and a stop or close of something that is not, are refused. -/
def OpenStreams.step (o : OpenStreams) : StreamOp → Option OpenStreams
  | .openSink ok => if !ok then some o else if o.sink then none else some { o with sink := true }
  | .closeSink => if o.sink then some { o with sink := false } else none
  | .startRx ok => if !ok then some o else if o.rx then none else some { o with rx := true }
  | .stopRx => if o.rx then some { o with rx := false } else none
  | .startTx ok => if !ok then some o else if o.tx then none else some { o with tx := true }
  | .stopTx => if o.tx then some { o with tx := false } else none

/-- What a record of operations leaves open, from nothing open; `none` when the record stops
or closes something that is not open. -/
def openAfter (ops : List StreamOp) : Option OpenStreams :=
  ops.foldlM OpenStreams.step OpenStreams.none

/-- Replaying two records in turn. -/
theorem openAfter_append {ops ops' : List StreamOp} (h : openAfter ops = some OpenStreams.none) :
    openAfter (ops ++ ops') = openAfter ops' := by
  rw [openAfter, List.foldlM_append, ← openAfter, h]
  rfl

end SsbSpoofer
