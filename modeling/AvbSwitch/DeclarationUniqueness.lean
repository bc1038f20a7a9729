/-
How many declarations a participant has.

Every New or Join indication of a registration makes a declaration of an unused machine on
each of the other ports, without looking for one that is there already.
`declarations_unique_iff` says that declarations stay unique along a run exactly when no
indication comes to a port that has the declaration.
-/
import AvbSwitch.MsrpFrames

namespace Msrp

variable {n : ℕ} {env : Env n} {t t' : State n} {p q : Fin n} {ref x : MachineRef}
  {m : MadMachine} {e : MrpEvent} {r : ℤ}

/-- StreamID and type of a machine that is a declaration in use. -/
def MadMachine.declaration (m : MadMachine) : Option ((UInt32 × UInt32) × AttributeType) :=
  if m.used = true ∧ m.attrDir = .dec then some (m.streamID, m.attributeType) else none

/-- No participant has two declarations of the same StreamID and type. -/
def DeclarationsUnique (t : State n) : Prop :=
  ∀ q x y k, (t.machine q x).declaration = some k → (t.machine q y).declaration = some k → x = y

/-- The event raises a New or Join indication for a stream. -/
def RaisesJoin (t : State n) (p : Fin n) (ref : MachineRef) (e : MrpEvent) (i : Fin 10) : Prop :=
  (t.machine p ref).attributeType.IsStream ∧ (t.machine p ref).attributeInfo = some i ∧
    (registrarEntry (t.machine p ref).regState e).state ≠ .invalid ∧
    IsJoin (registrarEntry (t.machine p ref).regState e).action

/-- The event raises an indication that goes to another port where the stream is declared with
the type already. -/
def Redeclares (t : State n) (p : Fin n) (ref : MachineRef) (e : MrpEvent) : Prop :=
  ∃ i, RaisesJoin t p ref e i ∧ ∃ q, q ≠ p ∧
    JoinEligible t (t.machine p ref) (t.streamInfoVars i).streamID q ∧
    ∃ x, (t.machine q x).declaration =
      some ((t.streamInfoVars i).streamID, (t.machine p ref).attributeType)

/-! ### What an event does to the declarations -/

theorem declaration_of_core {a b : MadMachine} (h : a.core = b.core) :
    a.declaration = b.declaration := by
  rw [MadMachine.eq_withAppState h]
  rfl

theorem propagatedAs_fst (hstream : m.attributeType.IsStream) :
    (propagatedAs m).1 = m.attributeType := by
  rw [propagatedAs]
  cases hm : m.attributeType with
  | talkerAdvertise =>
    show (if msrpCheckPortBandwidth > 0 then AttributeType.talkerAdvertise else .talkerFailed) = _
    decide
  | talkerFailed => rfl
  | listener => rfl
  | domainVector => exact absurd hm hstream

theorem declaration_of_unused {k : Fin 24} (h : firstUnused t q = some k) :
    (t.machine q (.slot k)).declaration = none := by
  have hunused : (t.machine q (.slot k)).used = false := by simpa using List.find?_some h
  rw [MadMachine.declaration, if_neg]
  simp [hunused]

/-- On port `q` an unused machine has become the declaration `k`. -/
def Gains (t t' : State n) (q : Fin n) (k : (UInt32 × UInt32) × AttributeType) : Prop :=
  ∃ i, (t.machine q (.slot i)).declaration = none ∧
    ∀ x, (t'.machine q x).declaration =
      if x = .slot i then some k else (t.machine q x).declaration

theorem PortJoined.gains {i : Fin 10} (h : PortJoined m i t t' q)
    (hstream : m.attributeType.IsStream)
    (helig : JoinEligible t m (t.streamInfoVars i).streamID q) :
    Gains t t' q ((t.streamInfoVars i).streamID, m.attributeType) := by
  rw [PortJoined, if_pos helig] at h
  obtain ⟨k, s, hk, hmachine⟩ := h
  refine ⟨k, declaration_of_unused hk, fun x => ?_⟩
  rw [hmachine]
  split
  · rw [← propagatedAs_fst hstream]
    rfl
  · rfl

/-- The indications of a registration and its declarations on the other ports. -/
theorem registrarIndication_declarations {action : Action}
    (h : registrarIndication env t p ref action = some t') :
    (∀ i, IsJoin action → (t.machine p ref).attributeType.IsStream →
      (t.machine p ref).attributeInfo = some i → ∀ q,
        if q ≠ p ∧ JoinEligible t (t.machine p ref) (t.streamInfoVars i).streamID q then
          Gains t t' q ((t.streamInfoVars i).streamID, (t.machine p ref).attributeType)
        else ∀ x, (t'.machine q x).declaration = (t.machine q x).declaration) ∧
    (¬ (IsJoin action ∧ (t.machine p ref).attributeType.IsStream ∧
        (t.machine p ref).attributeInfo ≠ none) →
      ∀ q x, (t'.machine q x).declaration = (t.machine q x).declaration) := by
  rcases registrarIndication_cases h with ⟨hj, u, s, hind, hcase⟩ | ⟨hl, u, hind, hprop⟩ | ⟨hj, -, rfl⟩
  · have hres := msrpMadJoinInd_reservationsOnly hind
    rcases msrpMadJoinInd_cases hind with ⟨hd, rfl, rfl⟩ | ⟨-, hnone, rfl, rfl⟩ | ⟨i, hs, hi, rfl, -⟩
    · -- a Domain is not propagated
      refine ⟨fun i _ hs _ => absurd hd hs, fun _ q x => ?_⟩
      rcases hcase with ⟨hneg, -⟩ | ⟨-, new, hprop⟩
      · omega
      · rw [msrpMapJoinPropagate, if_pos hd, Option.some_inj] at hprop
        rw [hprop]
    · -- no stream information, the failure is counted
      refine ⟨fun i _ _ hi => by simp [hnone] at hi, fun _ q x => ?_⟩
      rcases hcase with ⟨-, rfl⟩ | ⟨hpos, -⟩
      · by_cases hq : q = p
        · rw [hq, State.machine, State.countRegFailure, State.setPort_ports_self]
          rfl
        · rw [State.machine, State.countRegFailure, State.setPort_ports_of_ne hq]
          rfl
      · omega
    · refine ⟨fun i' _ _ hi' q => ?_, fun hno => absurd ⟨hj, hs, by simp [hi]⟩ hno⟩
      rw [hi, Option.some_inj] at hi'
      subst hi'
      rcases hcase with ⟨hneg, -⟩ | ⟨-, new, hprop⟩
      · omega
      · have hjoined := msrpMapJoinPropagate_joined hs hi hprop
        have hsame : ∀ x, u.machine q x = t.machine q x := fun x => by rw [hres.machine]
        by_cases hq : q = p
        · rw [if_neg fun hc => hc.1 hq]
          intro x
          rw [hjoined.outside q (fun hmem => mem_otherPorts.mp hmem hq), hsame]
        · have helig := joinEligible_joinInd hind hq (t.streamInfoVars i).streamID
          have hport := hjoined.inside q (mem_otherPorts.mpr hq)
          by_cases he : JoinEligible t (t.machine p ref) (t.streamInfoVars i).streamID q
          · rw [if_pos ⟨hq, he⟩]
            obtain ⟨k, hk, hgain⟩ := hport.gains hs (by rw [hres.streams]; exact helig.mpr he)
            refine ⟨k, by rw [← hsame]; exact hk, fun x => ?_⟩
            rw [hgain, hres.streams, hsame]
          · rw [if_neg fun hc => he hc.2]
            rw [PortJoined, if_neg (by rw [hres.streams]; exact fun hc => he (helig.mp hc))] at hport
            intro x
            rw [hport, hsame]
  · have hres := msrpMadLeaveIndication_reservationsOnly hind
    obtain ⟨hcore, -⟩ := msrpMadLeavePropagation_sameCore hprop
    refine ⟨fun i hj => absurd hl hj.not_isLeave, fun _ q x => ?_⟩
    rw [declaration_of_core (hcore.core q x), hres.machine]
  · exact ⟨fun i h => absurd h hj, fun _ _ _ => rfl⟩

/-- An event of a registration and the declarations on all ports. -/
theorem madAttrEvent_declarations (hreg : (t.machine p ref).attrDir = .reg)
    (h : madAttrEvent env t p ref e = some (t', r)) :
    (∀ i, RaisesJoin t p ref e i → ∀ q,
      if q ≠ p ∧ JoinEligible t (t.machine p ref) (t.streamInfoVars i).streamID q then
        Gains t t' q ((t.streamInfoVars i).streamID, (t.machine p ref).attributeType)
      else ∀ x, (t'.machine q x).declaration = (t.machine q x).declaration) ∧
    ((∀ i, ¬ RaisesJoin t p ref e i) →
      ∀ q x, (t'.machine q x).declaration = (t.machine q x).declaration) := by
  obtain ⟨u, hu, happ⟩ := madAttrEvent_reg hreg h
  have hlast : ∀ q x, (t'.machine q x).declaration = (u.machine q x).declaration := fun q x =>
    declaration_of_core ((applicant_appOnly happ).sameCore.core q x)
  rcases registrar_cases hu with ⟨hinv, rfl⟩ | ⟨hinv, v, hv, rfl⟩
  · exact ⟨fun i hraise => absurd hinv hraise.2.2.1, fun _ => hlast⟩
  · obtain ⟨hjoin, hnone⟩ := registrarIndication_declarations hv
    have hstate : ∀ q x, (t'.machine q x).declaration = (v.machine q x).declaration := by
      intro q x
      rw [hlast, State.setRegState, State.setMachine_machine, registrarTimer_machine]
      split
      · next hpx =>
        rw [hpx.1, hpx.2]
        rfl
      · rfl
    constructor
    · intro i hraise q
      have hq := hjoin i hraise.2.2.2 hraise.1 hraise.2.1 q
      simp only [Gains, hstate]
      exact hq
    · intro hno q x
      rw [hstate]
      refine hnone ?_ q x
      rintro ⟨hj, hs, hi⟩
      obtain ⟨i, hi⟩ := Option.ne_none_iff_exists'.mp hi
      exact hno i ⟨hs, hi, hinv, hj⟩

/-! ### Runs -/

/-- An event passed to a registration of any port. -/
def registrationEvent (env : Env n) (t : State n) (c : Fin n × MachineRef × MrpEvent) :
    Option (State n) :=
  if (t.machine c.1 c.2.1).attrDir = .reg then (madAttrEvent env t c.1 c.2.1 c.2.2).map Prod.fst
  else none

/-- One event keeps the declarations unique exactly if it does not redeclare. -/
theorem registrationEvent_unique {c : Fin n × MachineRef × MrpEvent} (hI : DeclarationsUnique t)
    (h : registrationEvent env t c = some t') :
    DeclarationsUnique t' ↔ ¬ Redeclares t c.1 c.2.1 c.2.2 := by
  obtain ⟨p, ref, e⟩ := c
  rw [registrationEvent] at h
  split at h
  · next hreg =>
    obtain ⟨⟨u, r⟩, hev, rfl⟩ := Option.map_eq_some_iff.mp h
    obtain ⟨hraise, hquiet⟩ := madAttrEvent_declarations hreg hev
    show DeclarationsUnique u ↔ _
    by_cases hany : ∃ i, RaisesJoin t p ref e i
    · obtain ⟨i, hi⟩ := hany
      have hports := hraise i hi
      constructor
      · -- the old declaration and the new one
        rintro hunique ⟨i', hi', q, hq, helig, x, hx⟩
        have heq : i' = i := Option.some_inj.mp (hi'.2.1.symm.trans hi.2.1)
        subst heq
        obtain ⟨k, hk, hgain⟩ := by
          have hport := hports q
          rwa [if_pos ⟨hq, helig⟩] at hport
        have hne : x ≠ .slot k := by
          rintro rfl
          rw [hk] at hx
          simp at hx
        exact hne (hunique q x (.slot k) _ (by rw [hgain, if_neg hne]; exact hx)
          (by rw [hgain, if_pos rfl]))
      · intro hno q x y k hx hy
        have hport := hports q
        split at hport
        · next hq =>
          obtain ⟨j, -, hgain⟩ := hport
          have hfresh : ∀ z, (t.machine q z).declaration ≠
              some ((t.streamInfoVars i).streamID, (t.machine p ref).attributeType) :=
            fun z hz => hno ⟨i, hi, q, hq.1, hq.2, z, hz⟩
          rw [hgain] at hx hy
          by_cases hxj : x = .slot j
          · by_cases hyj : y = .slot j
            · rw [hxj, hyj]
            · rw [if_pos hxj, Option.some_inj] at hx
              rw [if_neg hyj, ← hx] at hy
              exact absurd hy (hfresh y)
          · rw [if_neg hxj] at hx
            by_cases hyj : y = .slot j
            · rw [if_pos hyj, Option.some_inj] at hy
              rw [← hy] at hx
              exact absurd hx (hfresh x)
            · rw [if_neg hyj] at hy
              exact hI q x y k hx hy
        · exact hI q x y k ((hport x).symm.trans hx) ((hport y).symm.trans hy)
    · have hsame := hquiet (not_exists.mp hany)
      refine iff_of_true (fun q x y k hx hy => ?_) ?_
      · exact hI q x y k ((hsame q x).symm.trans hx) ((hsame q y).symm.trans hy)
      · rintro ⟨i, hi, -⟩
        exact hany ⟨i, hi⟩
  · simp at h

/-- Declarations stay unique along a sequence of events on registrations of any ports exactly
when none of them raises an indication that goes to a port with the declaration. -/
theorem declarations_unique_iff (env : Env n) (hI : DeclarationsUnique t)
    (cs : List (Fin n × MachineRef × MrpEvent)) :
    Runs.Throughout (registrationEvent env) DeclarationsUnique t cs ↔
      Runs.EachStep (registrationEvent env) (fun t c => ¬ Redeclares t c.1 c.2.1 c.2.2) t cs :=
  Runs.throughout_iff_eachStep (K := fun _ => True) (fun _ _ => trivial)
    (fun _ hI h => registrationEvent_unique hI h) trivial hI

/-- A Talker's registration on port 0 of two. -/
def talkerOfTwo : State 2 :=
  (State.idle 2).setMachine ⟨0, Nat.two_pos⟩ .first
    ((MadMachine.ofStream .talkerAdvertise .reg).withRegState .MT)

theorem talkerOfTwo_declaration (q : Fin 2) (x : MachineRef) :
    (talkerOfTwo.machine q x).declaration = none := by
  rw [talkerOfTwo, State.setMachine_machine]
  split <;> rfl

theorem talkerOfTwo_unique : DeclarationsUnique talkerOfTwo := by
  intro q x y k hx
  rw [talkerOfTwo_declaration] at hx
  simp at hx

/-- A first indication declares the stream once. -/
theorem declarations_unique_first :
    Runs.Throughout (registrationEvent ⟨true, fun _ _ => false⟩) DeclarationsUnique talkerOfTwo
      [(0, .slot 0, .new)] := by
  refine (declarations_unique_iff _ talkerOfTwo_unique _).mpr fun t' _ => ⟨?_, trivial⟩
  rintro ⟨i, -, q, -, -, x, hx⟩
  rw [talkerOfTwo_declaration] at hx
  simp at hx

/-- A second New for the registered stream declares it on port 1 for the second time. -/
theorem declarations_doubled :
    ¬ Runs.Throughout (registrationEvent ⟨true, fun _ _ => false⟩) DeclarationsUnique talkerOfTwo
      [(0, .slot 0, .new), (0, .slot 0, .new)] := by
  intro h
  set run := Runs.run (registrationEvent ⟨true, fun _ _ => false⟩) talkerOfTwo
    [(0, .slot 0, .new), (0, .slot 0, .new)] with hrun
  have hboth : run.map (fun t => ((t.machine 1 (.slot 0)).declaration,
      (t.machine 1 (.slot 1)).declaration)) =
        some (some ((0, 0), .talkerAdvertise), some ((0, 0), .talkerAdvertise)) := by decide +kernel
  obtain ⟨t, ht, hdecl⟩ := Option.map_eq_some_iff.mp hboth
  rw [Prod.mk.injEq] at hdecl
  have heq := h _ t List.prefix_rfl (hrun ▸ ht) 1 (.slot 0) (.slot 1) _ hdecl.1 hdecl.2
  exact absurd heq (by decide)

end Msrp
