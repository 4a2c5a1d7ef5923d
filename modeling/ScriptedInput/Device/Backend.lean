import ScriptedInput.Act
import ScriptedInput.Device.Error

/-! Back ends: what creates virtual devices and carries out commands on them. -/
namespace ScriptedInput

/-- A back end with its own state `σ`, the handles `η` of the devices it creates, and the effects
`ε` that its calls leave in a log. A handle stays as it is until it is closed. -/
structure Backend (σ η ε : Type) where
  /-- Creates a device with everything it needs at once. -/
  create : DeviceId → Registration → Act σ ε (Except BackendError η)
  /-- Hands on events in order, as one batch. -/
  inject : η → List RawEvent → Act σ ε (Except BackendError Unit)
  /-- Takes note that so many milliseconds have been waited. -/
  delay : η → UInt64 → Act σ ε (Except BackendError Unit)
  /-- Is called now and then during a long wait. -/
  idle : η → Act σ ε (Except BackendError Unit)
  /-- Emits a barrier. -/
  sync : η → String → Act σ ε (Except BackendError Unit)
  /-- Destroys the device. -/
  close : η → Act σ ε (Except BackendError Unit × η)

end ScriptedInput
