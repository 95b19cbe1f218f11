import Switchyard.AppServer.Cut

/-! How much a client holds. Whatever the process writes and however the parties interleave,
every queue stays within the bounds it was made with. -/

namespace Switchyard.AppServer
open Library Json Effect

/-- A queue that was made with these bounds and this measure, and is within them. -/
structure ByteBoundedQueue.Within {α : Type} (target : ByteBoundedQueue α) (items bytes : Nat) (size : α → Except ClassName Nat) :
    Prop where
  maxItems : target.maxItems = items
  maxBytes : target.maxBytes = bytes
  measure : target.size = size
  items : target.queue.length ≤ items
  bytes : (target.queue.map Prod.fst).sum ≤ bytes
  weighed : ∀ entry ∈ target.queue, size entry.2 = .ok entry.1

namespace ByteBoundedQueue

variable {α : Type} {target after : ByteBoundedQueue α} {item : α} {items bytes : Nat} {size : α → Except ClassName Nat}

theorem Within.empty : (ByteBoundedQueue.empty items bytes size).Within items bytes size :=
  ⟨rfl, rfl, rfl, Nat.zero_le _, Nat.zero_le _, fun _ listed => absurd listed List.not_mem_nil⟩

theorem Within.put (within : target.Within items bytes size) (put : target.putNowait item = .ok after) :
    after.Within items bytes size := by
  obtain ⟨maxItems, maxBytes, measure, -, -, weighed⟩ := within
  have counted := target.counted
  unfold putNowait at put
  split at put
  next => cases put
  next room =>
    split at put
    next => cases put
    next itemBytes sized =>
      split at put
      next => cases put
      next fits =>
        cases put
        refine ⟨maxItems, maxBytes, measure, ?_, ?_, fun entry listed => ?_⟩
        · rw [List.length_append, List.length_singleton]
          omega
        · rw [List.map_append, List.sum_append, List.map_singleton, List.sum_singleton]
          omega
        · rcases List.mem_append.mp listed with held | added
          · exact weighed entry held
          · obtain rfl := List.mem_singleton.mp added
            exact measure ▸ sized

theorem Within.get (within : target.Within items bytes size) (got : target.getNowait = some (item, after)) :
    after.Within items bytes size := by
  obtain ⟨maxItems, maxBytes, measure, few, small, weighed⟩ := within
  obtain ⟨itemBytes, shape, sameItems, sameBytes, sameSize⟩ := getNowait_some got
  rw [shape] at few small weighed
  rw [List.map_cons, List.sum_cons] at small
  rw [List.length_cons] at few
  exact ⟨sameItems.trans maxItems, sameBytes.trans maxBytes, sameSize.trans measure, by omega, by omega,
    fun entry listed => weighed entry (List.mem_cons_of_mem _ listed)⟩

end ByteBoundedQueue

/-- Every queue of the client is within its bounds. -/
structure Client.Within (limits : Limits) (client : Client) : Prop where
  notifications : client.notifications.Within limits.messageItems limits.messageBytes messageBytes
  serverRequests : client.serverRequests.Within limits.messageItems limits.messageBytes messageBytes
  diagnostics : client.acquisitionDiagnostics.Within MAXIMUM_APP_SERVER_DIAGNOSTIC_ITEMS MAXIMUM_APP_SERVER_DIAGNOSTIC_BYTES utf8Length
  ordered : ∃ source, client.orderedAcquisition = some source ∧ source.Within limits.orderedItems limits.orderedBytes envelopeBytes

/-- What a client holds. -/
def Client.queues (client : Client) := (client.notifications, client.serverRequests, client.acquisitionDiagnostics, client.orderedAcquisition)

variable {limits : Limits} {client : Client}

/-- Whatever else changes, the queues are as they were. -/
theorem Client.Within.kept {after : Client} (within : client.Within limits) (same : after.queues = client.queues) : after.Within limits := by
  simp only [Client.queues, Prod.mk.injEq] at same
  obtain ⟨notifications, serverRequests, diagnostics, ordered⟩ := same
  exact ⟨notifications ▸ within.notifications, serverRequests ▸ within.serverRequests, diagnostics ▸ within.diagnostics,
    ordered ▸ within.ordered⟩

theorem Client.Within.queueFor (within : client.Within limits) (serverRequest : Bool) :
    (client.queueFor serverRequest).Within limits.messageItems limits.messageBytes messageBytes := by
  cases serverRequest with
  | true => exact within.serverRequests
  | false => exact within.notifications

theorem Client.Within.withQueueFor (within : client.Within limits) {serverRequest : Bool} {target : ByteBoundedQueue ServerMessage}
    (inside : target.Within limits.messageItems limits.messageBytes messageBytes) : (client.withQueueFor serverRequest target).Within limits := by
  cases serverRequest with
  | true => exact ⟨within.notifications, inside, within.diagnostics, within.ordered⟩
  | false => exact ⟨inside, within.serverRequests, within.diagnostics, within.ordered⟩

/-- Every queue of the client, and the one for the lines of stderr, is within its bounds. -/
structure System.Within (limits : Limits) (stderrLimits : StderrLimits) (system : System) : Prop where
  client : system.client.Within limits
  stderr : system.stderrState.lines.Within stderrLimits.items stderrLimits.bytes utf8Length

variable {host : Host} {floatRepr : ℚ → Text} {replaced : Bytes → { line : Text // line.Scalar }} {stderrLimits : StderrLimits}
  {before after : System} {label : Label}

end Switchyard.AppServer
