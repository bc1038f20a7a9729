/-
What a receiver makes of the Announce frames that an instance sends.

A port that announces should announce its `masterPriority`.  The frame is made from other
variables: the identity of the sender is expanded once more than it should be, and the hop
count is `masterStepsRemoved`.

* `encodesMasterPriority_along_iff` — when the vector that is extracted is `masterPriority`;
* `ownAnnounce_along_iff` — when an instance rejects its own frames: its path trace does not
  help once it is copied, because the copy never contains this clock.
-/
import AvbSwitch.PathTrace

open Octets

namespace Gptp

variable {n : ℕ} {host : Host} {clock : Clock} {t t' : Gptpm n} {tx tx' : AnnounceTx n}
  {p q i : Fin n} {m : Mem} {mac : Vector UInt8 6} {systemConfig : SystemConfig}
  {portConfig : Fin n → PortConfig}

/-! ### The identity -/

/-- To expand the identity once more does not change it. -/
def ExpandsToItself (mac : Vector UInt8 6) : Prop :=
  mac.toList.drop 3 = [0xFF, 0xFE, 0xFF]

theorem announcedIdentity_eq_iff :
    announcedIdentity (clockIdentityOf mac) = clockIdentityOf mac ↔ ExpandsToItself mac := by
  have hlast : mac.toList.drop 3 = [mac[3], mac[4], mac[5]] := by
    refine List.ext_getElem ?_ fun i _ hi => ?_
    · rw [List.length_drop, mac.length_toList]
      rfl
    · have hi3 : i < 3 := hi
      rw [List.getElem_drop, Vector.getElem_toList]
      interval_cases i <;> rfl
  rw [announcedIdentity, clockIdentityOf, ExpandsToItself, hlast]
  show (#v[mac[0], mac[1], mac[2], 0xFF, 0xFE, 0xFF, 0xFE, mac[3]] : ClockIdentity) = _ ↔ _
  rw [← Vector.toArray_inj]
  -- octet 5 of the one is octet 3 of the MAC address, octet 7 of the other octet 5 of it
  simp only [Array.mk.injEq, List.cons.injEq, true_and, and_true]
  constructor
  · rintro ⟨h3, h4, h5⟩
    exact ⟨h3.symm, h4.symm, h5.symm.trans h3.symm⟩
  · rintro ⟨h3, h4, h5⟩
    exact ⟨h3.symm, h4.symm, h3.trans h5.symm⟩

/-! ### What is extracted -/

/-- From the frames that port `p` sends, a receiver extracts the `masterPriority` of the port,
with the number of its own port. -/
def EncodesMasterPriority (host : Host) (mac : Vector UInt8 6) (t : Gptpm n) (p : Fin n) : Prop :=
  ∀ (clock : Clock) (tx : AnnounceTx n), tx.Configured mac →
    ∃ tx', transmitAnnounce host clock t tx p = some tx' ∧
      ∀ q < 255, extractAnnounce tx'.ptpTxBuf q =
        { (t.ports p).masterPriority with portNumber := .put (q + 1) }

/-- A port number of one octet is stored in full. -/
theorem setPortNumber_eq_put {v : ℕ} (h : v < 256) : setPortNumber v = .put v := by
  rw [setPortNumber, Short.put, Short.mk.injEq, ← UInt8.toNat_inj, ← UInt8.toNat_inj]
  simp only [UInt8.toNat_ofNat']
  omega

/-- What is extracted from a frame, field by field. -/
theorem Announces.extractAnnounce {bigEndian : Bool} (h : Announces bigEndian t tx p m) (q : ℕ) :
    extractAnnounce m q =
      { rootSystemIdentity := t.gmPriorityVector.rootSystemIdentity
        stepsRemoved := .put t.masterStepsRemoved.toNat
        sourcePortIdentity :=
          ⟨announcedIdentity tx.grandmasterIdentity, .put (tx.usPortNumber p).toNat⟩
        portNumber := setPortNumber (q + 1) } := by
  rw [← h.root q, ← h.stepsRemoved, ← h.source]
  rfl

theorem hopCountAgrees_iff_put :
    Short.put t.masterStepsRemoved.toNat = t.gmPriorityVector.stepsRemoved ↔ HopCountAgrees t := by
  rw [← Short.get_inj, Short.get_put t.masterStepsRemoved.toNat_lt, HopCountAgrees]

/-- In a state whose `masterPriority` is made from `gmPriority`, the frame is right exactly if
the identity and the hop count are. -/
theorem encodesMasterPriority_iff (hlen : t.pathTraceLength ≤ maxPathTrace) (hp : (p : ℕ) < 255)
    (hmaster : (t.ports p).masterPriority = masterPriorityOf t p)
    (hclock : t.systemPriority.sourcePortIdentity.clockIdentity = clockIdentityOf mac) :
    EncodesMasterPriority host mac t p ↔ ExpandsToItself mac ∧ HopCountAgrees t := by
  have hnumber : Short.put (UInt16.ofNat (p + 1)).toNat = setPortNumber (p + 1) := by
    rw [setPortNumber_eq_put (by omega), UInt16.toNat_ofNat', Nat.mod_eq_of_lt (by omega)]
  -- the two vectors, field by field
  have hiff : ∀ {clock : Clock} {tx tx' : AnnounceTx n} {q : ℕ}, tx.Configured mac →
      transmitAnnounce host clock t tx p = some tx' → q < 255 →
      (extractAnnounce tx'.ptpTxBuf q =
          { (t.ports p).masterPriority with portNumber := .put (q + 1) } ↔
        ExpandsToItself mac ∧ HopCountAgrees t) := by
    intro clock tx tx' q hc hsent hq
    rw [(transmitAnnounce_announces hsent).extractAnnounce, hmaster, masterPriorityOf, hclock,
      setPortNumber_eq_put (by omega : q + 1 < 256), ← hopCountAgrees_iff_put,
      ← announcedIdentity_eq_iff, show (tx.countUp p).grandmasterIdentity = _ from
      hc.grandmasterIdentity, show (tx.countUp p).usPortNumber p = _ from hc.usPortNumber p, hnumber]
    simp only [PriorityVector.mk.injEq, PortIdentity.mk.injEq, true_and, and_true]
    exact and_comm
  constructor
  · intro h
    have hc : (AnnounceTx.swInit n mac fun _ => 0).Configured mac := AnnounceTx.swInit_configured
    obtain ⟨tx', hsent, hextract⟩ := h atBoot _ hc
    exact (hiff hc hsent (by decide)).mp (hextract 0 (by decide))
  · intro h clock tx hc
    obtain ⟨tx', hsent⟩ := Option.isSome_iff_exists.mp
      ((@transmitAnnounce_isSome_iff n host clock t tx p).mpr hlen)
    exact ⟨tx', hsent, fun q hq => (hiff hc hsent hq).mpr h⟩

/-! ### After a selection -/

theorem setSelectedTree_gmPriorityVector :
    (setSelectedTree t).gmPriorityVector = t.gmPriorityVector := by
  rw [Gptpm.gmPriorityVector, Gptpm.gmPriorityVector, show (setSelectedTree t).gmPriority = t.gmPriority from rfl]
  cases t.gmPriority <;> rfl

theorem assignRoles_gmPriorityVector :
    (assignRoles t).gmPriorityVector = t.gmPriorityVector := by
  rw [Gptpm.gmPriorityVector, Gptpm.gmPriorityVector, show (assignRoles t).gmPriority = t.gmPriority from rfl]
  cases t.gmPriority with
  | gmPathPriority i => exact assignRole_gmPathPriority
  | _ => rfl

theorem assignRole_masterPriority : (assignRole t p).masterPriority = masterPriorityOf t p := by
  rw [assignRole]
  split
  case h_4 => split_ifs <;> rfl
  all_goals rfl

/-- A selection leaves every `masterPriority` made from the vector it selects. -/
theorem setSelectedTree_masterPriority :
    ((setSelectedTree (updtRolesTree t)).ports p).masterPriority =
      masterPriorityOf (setSelectedTree (updtRolesTree t)) p := by
  show (assignRole (updateGmPriority (computePaths t)) p).masterPriority = _
  rw [assignRole_masterPriority, masterPriorityOf, masterPriorityOf, setSelectedTree_gmPriorityVector,
    show (updtRolesTree t).gmPriorityVector = _ from
    assignRoles_gmPriorityVector (t := updateGmPriority (computePaths t))]
  rfl

/-- **Encoding along a run.**  Of every port that is master after a selection the frames encode
`masterPriority` exactly if the last three octets of the MAC address are FF-FE-FF and the port
that was selected had last looked at a message with the hop count of its own vector. -/
theorem encodesMasterPriority_along_iff {numPorts : UInt8} (host : Host) (mac : Vector UInt8 6)
    (systemConfig : SystemConfig) (portConfig : Fin numPorts.toNat → PortConfig)
    (inputs : List (Input numPorts.toNat)) :
    Runs.AtEach (step host.bigEndian)
      (fun t input => Selects t input → ∀ p,
        ((portRoleSelection t).ports p).selectedRole = .master →
          (EncodesMasterPriority host mac (portRoleSelection t) p ↔
            ExpandsToItself mac ∧ HopCountKept t))
      (gptpSwInit mac (staticMemory systemConfig portConfig)) inputs := by
  refine Runs.atEach_of_invariant
    (K := fun t => Sound t ∧ t.systemPriority = systemPriorityOf mac systemConfig ∧
      t.pathTraceLength ≤ maxPathTrace)
    (fun hs h => ⟨hs.1.step h, (step_systemPriority h).trans hs.2.1, step_pathTraceLength hs.2.2 h⟩)
    (fun {t input} ht hselects p _ => ?_)
    ⟨gptpSwInit_sound, gptpSwInit_systemPriority, gptpSwInit_localTrace.1.le.trans maxPathTrace_pos⟩
  obtain ⟨hsound, hsystem, hlen⟩ := ht
  have hselected := portRoleSelection_of_selects hselects
  have hlen' : (portRoleSelection t).pathTraceLength ≤ maxPathTrace :=
    @step_pathTraceLength _ host.bigEndian _ _ .portRoleSelection hlen rfl
  have hclock : (portRoleSelection t).systemPriority.sourcePortIdentity.clockIdentity =
      clockIdentityOf mac :=
    congrArg (·.sourcePortIdentity.clockIdentity) (portRoleSelection_systemPriority.trans hsystem)
  have hp : (p : ℕ) < 255 := lt_of_lt_of_le p.isLt (Nat.le_of_lt_succ numPorts.toNat_lt)
  have hsteps : (clearReselectTree t).systemPriority.stepsRemoved = .put 0 :=
    congrArg (·.stepsRemoved) hsystem
  -- the selection has set up `masterPriority` from the vector it has selected
  rw [encodesMasterPriority_iff hlen' hp (hselected ▸ setSelectedTree_masterPriority) hclock,
    hselected, ← hopCountKept_clearReselectTree,
    ← hopCountAgrees_iff hsound.clearReselectTree hsteps, HopCountAgrees,
    setSelectedTree_gmPriorityVector]
  rfl

/-- The ports enter the protocol. -/
def portsStart : List (Input 2) := [.portAnnounceInformation port0, .portAnnounceInformation port1]

/-- **The identity is expanded twice.**  Already the frame that port 0 sends after the first
selection does not encode its `masterPriority`. -/
theorem first_announce_differs :
    ¬ Runs.AtEach (step true)
        (fun t input => Selects t input → ∀ p,
          ((portRoleSelection t).ports p).selectedRole = .master →
            EncodesMasterPriority bigEndianHost #v[0x00, 0x0A, 0x35, 0x00, 0x22, 0xFF]
              (portRoleSelection t) p)
        (gptpSwInit #v[0x00, 0x0A, 0x35, 0x00, 0x22, 0xFF]
          (staticMemory ⟨248, 248⟩ fun _ => ⟨3, 3⟩)) (portsStart ++ [.portRoleSelection]) := by
  intro h
  have hrun : (Runs.run (step true)
      (gptpSwInit #v[0x00, 0x0A, 0x35, 0x00, 0x22, 0xFF]
        (staticMemory ⟨248, 248⟩ fun _ => ⟨3, 3⟩)) portsStart).map
      (fun t => (t.portRoleSelectionState, decide (Reselecting t),
        ((portRoleSelection t).ports 0).selectedRole,
        (transmitAnnounce bigEndianHost atBoot (portRoleSelection t)
          (.swInit 2 #v[0x00, 0x0A, 0x35, 0x00, 0x22, 0xFF] fun _ => 0) 0).map fun tx' =>
            decide ((extractAnnounce tx'.ptpTxBuf 0).sourcePortIdentity =
              ((portRoleSelection t).ports 0).masterPriority.sourcePortIdentity))) =
      some (.roleSelection, true, .master, some false) := by
    decide +kernel
  obtain ⟨t, ht, heq⟩ := Option.map_eq_some_iff.mp hrun
  simp only [Prod.mk.injEq, decide_eq_true_iff] at heq
  obtain ⟨hstate, hreselect, hmaster, hdiffers⟩ := heq
  obtain ⟨tx', hsent, hextract⟩ :=
    h.last ht ⟨hstate, hreselect⟩ 0 hmaster atBoot _ AnnounceTx.swInit_configured
  rw [hsent, Option.map_some, hextract 0 (by decide)] at hdiffers
  exact of_decide_eq_false (Option.some_inj.mp hdiffers) rfl

/-! ### An instance and its own frames -/

/-- Whatever frame the instance sends now, it would reject it on every port. -/
def RejectsOwnAnnounce (host : Host) (mac : Vector UInt8 6) (t : Gptpm n) : Prop :=
  ∀ (clock : Clock) (tx tx' : AnnounceTx n) (p q : Fin n), tx.Configured mac →
    transmitAnnounce host clock t tx p = some tx' →
      (qualifyAnnounce host.bigEndian t q tx'.ptpTxBuf).map Prod.snd = some false

/-- The path trace comes from the system itself or from a message. -/
def TraceSound (bigEndian : Bool) (t : Gptpm n) : Prop :=
  LocalTrace t ∨ ∃ (_ : Fin n) (m : Mem), CopiedTrace bigEndian t m

theorem TraceSound.step {bigEndian : Bool} {input : Input n} (ht : TraceSound bigEndian t)
    (h : step bigEndian t input = some t') : TraceSound bigEndian t' := by
  rcases step_trace h with hsame | hlocal | ⟨p, m, -, -, hcopied⟩
  · rcases ht with hlocal | ⟨p, m, hcopied⟩
    · exact Or.inl (hlocal.of_same hsame (step_systemPriority h))
    · exact Or.inr ⟨p, m, hcopied.of_same hsame (step_systemPriority h)⟩
  · exact Or.inl hlocal
  · exact Or.inr ⟨p, m, hcopied⟩

theorem TraceSound.length {bigEndian : Bool} (ht : TraceSound bigEndian t) :
    t.pathTraceLength ≤ maxPathTrace := by
  rcases ht with hlocal | ⟨-, m, hcopied⟩
  · exact hlocal.1.le.trans maxPathTrace_pos
  · exact hcopied.2.1

/-- A frame is rejected for its source, for its hop count or for its path trace. -/
theorem qualifyAnnounce_eq_false_iff {bigEndian : Bool}
    (hlen : rxPathTraceLength bigEndian m ≤ maxPathTrace) :
    (qualifyAnnounce bigEndian t p m).map Prod.snd = some false ↔
      (getSourcePortId m).clockIdentity = t.systemPriority.sourcePortIdentity.clockIdentity ∨
        255 < getRxAnnounceStepsRemoved m ∨
        ∃ i < rxPathTraceLength bigEndian m,
          rxPathTrace m i = t.systemPriority.sourcePortIdentity.clockIdentity := by
  simp only [qualifyAnnounce, min_eq_left hlen]
  split_ifs with hsource hsteps hown hover hslave
  · exact iff_of_true rfl (Or.inl hsource)
  · exact iff_of_true rfl (Or.inr (Or.inl hsteps))
  · exact iff_of_true rfl (Or.inr (Or.inr hown))
  · exact absurd hlen (Nat.not_le.mpr hover)
  -- otherwise it is not rejected, whether the path trace is copied or not
  all_goals
    refine iff_of_false (Option.some_inj.not.mpr Bool.noConfusion) ?_
    rintro (h | h | h)
    · exact hsource h
    · exact hsteps h
    · exact hown h

/-- What the instance looks at in its own frame. -/
theorem Announces.rejected_iff {bigEndian : Bool} (h : Announces bigEndian t tx p m)
    (hc : tx.grandmasterIdentity = clockIdentityOf mac) (ht : TraceSound bigEndian t)
    (hsystem : t.systemPriority = systemPriorityOf mac systemConfig) :
    (qualifyAnnounce bigEndian t q m).map Prod.snd = some false ↔
      ExpandsToItself mac ∨ 255 < t.masterStepsRemoved.toNat ∨ LocalTrace t := by
  have hlength : rxPathTraceLength bigEndian m = t.pathTraceLength := by
    rw [rxPathTraceLength, h.tlvLength, Nat.mul_div_cancel_left _ (by decide)]
  have hthis : t.systemPriority.sourcePortIdentity.clockIdentity = clockIdentityOf mac :=
    congrArg (·.sourcePortIdentity.clockIdentity) hsystem
  have hroot : t.systemPriority.rootSystemIdentity.clockIdentity = clockIdentityOf mac :=
    congrArg (·.rootSystemIdentity.clockIdentity) hsystem
  rw [qualifyAnnounce_eq_false_iff (hlength ▸ ht.length), h.source, hc,
    getRxAnnounceStepsRemoved, h.stepsRemoved, Short.get_put t.masterStepsRemoved.toNat_lt, hlength]
  -- source, hop count and path trace one by one
  refine or_congr ?_ (or_congr Iff.rfl ?_)
  · rw [hthis, announcedIdentity_eq_iff]
  · constructor
    · rintro ⟨i, hi, heq⟩
      rcases ht with hlocal | ⟨-, m', hcopied⟩
      · exact hlocal
      · -- a copied path trace does not contain this clock
        obtain ⟨hentry, hne⟩ := hcopied.2.2 i hi
        have hsame := Option.some_inj.mp (hentry.symm.trans (h.pathTrace i hi))
        exact absurd (hsame.trans heq) hne
    · intro hlocal
      have hpos : 0 < t.pathTraceLength := hlocal.1 ▸ Nat.one_pos
      -- its first entry is the root of the system priority
      refine ⟨0, hpos, ?_⟩
      have hentry := Option.some_inj.mp ((h.pathTrace 0 hpos).symm.trans hlocal.2)
      rw [hentry, hroot, hthis]

theorem rejectsOwnAnnounce_iff (ht : TraceSound host.bigEndian t)
    (hsystem : t.systemPriority = systemPriorityOf mac systemConfig) :
    RejectsOwnAnnounce host mac t ↔
      ExpandsToItself mac ∨ 255 < t.masterStepsRemoved.toNat ∨ LocalTrace t := by
  constructor
  · intro h
    rcases ht with hlocal | ⟨p, m, hcopied⟩
    · exact Or.inr (Or.inr hlocal)
    · -- there is a port, so that there is a frame to reject
      have hc : (AnnounceTx.swInit n mac fun _ => 0).Configured mac := AnnounceTx.swInit_configured
      obtain ⟨tx', hsent⟩ := Option.isSome_iff_exists.mp
        ((@transmitAnnounce_isSome_iff n host atBoot t (.swInit n mac fun _ => 0) p).mpr hcopied.2.1)
      exact ((transmitAnnounce_announces hsent).rejected_iff hc.grandmasterIdentity
        (Or.inr ⟨p, m, hcopied⟩) hsystem).mp (h atBoot _ tx' p p hc hsent)
  · intro h clock tx tx' p q hc hsent
    exact ((transmitAnnounce_announces hsent).rejected_iff hc.grandmasterIdentity ht hsystem).mpr h

/-- **Own frames along a run.**  In every state of a run from `gptp_sw_init` the instance would
reject what it sends exactly if, in every state, one of three things holds: its identity is not
changed by expanding it once more, its hop count is above 255, or its path trace is the one that
it has set up for itself. -/
theorem ownAnnounce_along_iff (host : Host) (mac : Vector UInt8 6) (systemConfig : SystemConfig)
    (portConfig : Fin n → PortConfig) (inputs : List (Input n)) :
    Runs.Throughout (step host.bigEndian) (RejectsOwnAnnounce host mac)
        (gptpSwInit mac (staticMemory systemConfig portConfig)) inputs ↔
      Runs.Throughout (step host.bigEndian)
        (fun t => ExpandsToItself mac ∨ 255 < t.masterStepsRemoved.toNat ∨ LocalTrace t)
        (gptpSwInit mac (staticMemory systemConfig portConfig)) inputs := by
  refine forall_congr' fun pre => forall_congr' fun t => imp_congr_right fun _ =>
    forall_congr' fun hrun => ?_
  have ht : TraceSound host.bigEndian t ∧ t.systemPriority = systemPriorityOf mac systemConfig :=
    Runs.run_invariant
      (I := fun t => TraceSound host.bigEndian t ∧ t.systemPriority = systemPriorityOf mac systemConfig)
      (fun hs h => ⟨hs.1.step h, (step_systemPriority h).trans hs.2⟩)
      ⟨Or.inl gptpSwInit_localTrace, gptpSwInit_systemPriority⟩ hrun
  exact rejectsOwnAnnounce_iff ht.1 ht.2

/-- Port 0 becomes the slave port, and then the superior message is repeated, so that its path
trace is copied. -/
def repeatedAnnounce : List (Input 2) :=
  becomesSlave superiorAnnounce ++ [.processRxAnnounce port0 superiorAnnounce]

/-- **An instance believes its own frame.**  The frame that port 1 sends is not rejected on
port 0. -/
theorem own_announce_believed :
    ¬ Runs.Throughout (step true)
        (RejectsOwnAnnounce bigEndianHost #v[0x00, 0x0A, 0x35, 0x00, 0x22, 0xFF])
        (gptpSwInit #v[0x00, 0x0A, 0x35, 0x00, 0x22, 0xFF]
          (staticMemory ⟨248, 248⟩ fun _ => ⟨3, 3⟩)) repeatedAnnounce := by
  intro h
  have hrun : (Runs.run (step true)
      (gptpSwInit #v[0x00, 0x0A, 0x35, 0x00, 0x22, 0xFF]
        (staticMemory ⟨248, 248⟩ fun _ => ⟨3, 3⟩)) repeatedAnnounce).map
      (fun t => (transmitAnnounce bigEndianHost atBoot t
        (.swInit 2 #v[0x00, 0x0A, 0x35, 0x00, 0x22, 0xFF] fun _ => 0) 1).map fun tx' =>
          (qualifyAnnounce true t 0 tx'.ptpTxBuf).map Prod.snd) =
      some (some (some true)) := by
    decide +kernel
  obtain ⟨t, ht, heq⟩ := Option.map_eq_some_iff.mp hrun
  obtain ⟨tx', hsent, hbelieved⟩ := Option.map_eq_some_iff.mp heq
  have hrejected := h repeatedAnnounce t List.prefix_rfl ht atBoot _ tx' 1 0
    AnnounceTx.swInit_configured hsent
  exact absurd (hbelieved.symm.trans hrejected) nofun

end Gptp
