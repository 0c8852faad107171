import OtEfr32.GreenPower.FrameSteps

/-!
# Signals of the radio driver

Which steps of the radio driver and of the Green Power interface call `otSysEventSignalPending`: an
interrupt of RAIL, unless it brings an event about the configuration of the schedule, the start of a
transmission that RAIL refuses, and the reports of `efr32RadioProcess`.  The scan timer does not.
-/

namespace OtEfr32.System

open GreenPower Radio

variable (config : Config) (rail : RailResults)

/-- `txCurrentPacket` is called for the frame in a transmit buffer, and RAIL does not start it. -/
def startFails (gpBuffers : Bool) (radio : Driver) (aFrame : ℕ) : Bool :=
  config.canAccessPal && !(config.multipan && gpBuffers) &&
    !(config.multipan && radio.isRadioTransmittingOrScanning) &&
    config.hasBandConfig (radio.tx.sTransmitBuffer aFrame).frame.mChannel && !rail.startTx

/-- The part of `efr32RadioProcess` that is next ends with a report to the stack, or with the last
one of a received frame. -/
def reports (radio : Driver) : Bool :=
  match radio.location with
  | .processRxPackets =>
      radio.rx.visit.any fun visit ↦ (radio.rx.visitStep config visit).visit.isNone
  | .processTxComplete => getInternalFlag radio.tx.flags radioTxEvents
  | .energyScanReported => true
  | .outside | .energyScanCheck | .processPendingCommands => false

/-- A step of the driver calls `otSysEventSignalPending`; `configEvent` says that RAIL reports
`SL_RAIL_EVENT_CONFIG_SCHEDULED` or `SL_RAIL_EVENT_CONFIG_UNSCHEDULED`. -/
def radioSignals (gpBuffers configEvent : Bool) (radio : Driver) (event : RadioEvent) : Bool :=
  match event with
  | .railEvents _ => !configEvent
  | event =>
    isProcess event && reports config radio ||
      (passedBuffer config radio event).any fun buffer ↦
        startFails config buffer.2 gpBuffers radio buffer.1

/-- `efr32GpProcess` hands over the due frame, which RAIL does not start. -/
def gpSignals (state : GpDriver) : Bool :=
  state.gp.gpState == .sendResponse && decide (state.gp.gpStateTimeOut ≤ state.clock) &&
    state.gp.sBufferedTxInstance.any fun iid ↦
      startFails config rail false state.radio (txBufIndex iid)

end OtEfr32.System
