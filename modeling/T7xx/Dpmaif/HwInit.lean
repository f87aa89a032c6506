import T7xx.Dpmaif.HwRegs

namespace T7xxModel.Dpmaif

open Register Kernel

/-- What the hardware reads in its registers when it is told to load a table. -/
inductive TableLoad where
  | bat (frg : Bool) (base : BitVec 64) (size : BitVec 32) (en : Bool)
  | pit (chan : Nat) (base : BitVec 64) (size : BitVec 32) (en : Bool)
  | batEnable (base : BitVec 64) (size : BitVec 32) (en : Bool)
deriving DecidableEq, Repr

def HwBank.batBase (regs : HwBank) : BitVec 64 :=
  regs DPMAIF_DL_BAT_INIT_CON3 ++ regs DPMAIF_DL_BAT_INIT_CON0

def HwBank.batSize (regs : HwBank) : BitVec 32 := regs DPMAIF_DL_BAT_INIT_CON1 &&& DPMAIF_BAT_SIZE_MSK

def HwBank.batEn (regs : HwBank) : Bool := (regs DPMAIF_DL_BAT_INIT_CON1).getLsbD 16

def tableLoad (c : Command Nat 32) : TableLoad :=
  let regs : HwBank := c.regs
  if c.reg = DPMAIF_DL_DLQPIT_INIT then
    .pit (c.value.extractLsb 30 16).toNat (regs DPMAIF_DL_DLQPIT_INIT_CON4 ++ regs DPMAIF_DL_DLQPIT_INIT_CON0)
      (regs DPMAIF_DL_DLQPIT_INIT_CON1 &&& DPMAIF_PIT_SIZE_MSK) ((regs DPMAIF_DL_DLQPIT_INIT_CON3).getLsbD 20)
  else if c.value.getLsbD 0 then .bat (c.value.getLsbD 16) regs.batBase regs.batSize regs.batEn
  else .batEnable regs.batBase regs.batSize regs.batEn

def HwBus.loads (bus : HwBus) : List TableLoad := bus.commands.map tableLoad

/-- The loads of an initialisation: the fragment table, the normal table, the PIT rings that the
    hardware was ready for, and the enabling of the normal table. -/
def initLoads (polled : HwPoll → Bool) (para : HwParams) : List TableLoad :=
  let base := para.pktBatBaseAddr rxq0
  let size := para.pktBatSizeCnt rxq0 &&& DPMAIF_BAT_SIZE_MSK
  [.bat true (para.frgBatBaseAddr rxq0) (para.frgBatSizeCnt rxq0 &&& DPMAIF_BAT_SIZE_MSK) true,
    .bat false base size false] ++
  ((List.finRange 2).filter fun q => polled (.pitReady q)).map (fun q =>
    .pit q.val (para.pitBaseAddr q) (para.pitSizeCnt q &&& DPMAIF_PIT_SIZE_MSK) true) ++
  [.batEnable base size true]

theorem upper_append_lower (n : BitVec 64) : upper32Bits n ++ lower32Bits n = n :=
  @BitVec.extractLsb'_append_extractLsb' 32 32 n

section Loads

variable (bus : HwBus)

theorem loads_quiet {program : List HwAccess} (quiet : ∀ a ∈ program, loadsTable a.reg = false) :
    (bus.run program).loads = bus.loads :=
  congrArg (List.map tableLoad) (run_commands_quiet loadsTable quiet bus)

theorem bus_run_append (first second : List HwAccess) :
    bus.run (first ++ second) = (bus.run first).run second := run_append loadsTable bus first second

theorem bus_run_regs (program : List HwAccess) (reg : Nat) :
    (bus.run program).regs reg = (editOf reg program).apply (bus.regs reg) := run_regs loadsTable bus program reg

/-- A write to one of the load registers is one load of what the registers hold. -/
theorem loads_write {reg : Nat} (value : BitVec 32) (starts : loadsTable reg = true) :
    (bus.run [write reg value]).loads = bus.loads ++ [tableLoad ⟨reg, value, bus.regs⟩] := by
  have one : (bus.run [write reg value]).commands =
      bus.commands ++ [⟨reg, (put value).apply (bus.regs reg), bus.regs⟩] := by
    change (if loadsTable reg = true then _ else _) = _
    rw [if_pos starts]
    rfl
  unfold HwBus.loads
  rw [one, put_apply, List.map_append, List.map_singleton]

theorem tableLoad_bat (value : BitVec 32) (regs : HwBank) :
    tableLoad ⟨DPMAIF_DL_BAT_INIT, value, regs⟩ =
      if value.getLsbD 0 then .bat (value.getLsbD 16) regs.batBase regs.batSize regs.batEn
      else .batEnable regs.batBase regs.batSize regs.batEn := by
  unfold tableLoad
  dsimp only
  rw [if_neg (by decide)]

theorem enableBits_getLsbD {i : Nat} (inside : i < 32) (mask : BitVec 32) (en : Bool) (old : BitVec 32) :
    ((enableBits mask en).apply old).getLsbD i = if mask.getLsbD i then en else old.getLsbD i := by
  unfold enableBits
  cases en with
  | false =>
    rw [if_neg (by decide), andNot_apply, BitVec.getLsbD_and, BitVec.getLsbD_not, decide_eq_true inside]
    cases mask.getLsbD i <;> simp
  | true =>
    rw [if_pos rfl, orIn_apply, BitVec.getLsbD_or]
    cases mask.getLsbD i <;> simp

theorem enableBits_bit {i : Nat} (inside : i < 32) (en : Bool) (old : BitVec 32) :
    ((enableBits (.twoPow 32 i) en).apply old).getLsbD i = en := by
  rw [enableBits_getLsbD inside, BitVec.getLsbD_twoPow, decide_eq_true inside]
  simp

theorem enableBits_keeps {mask other : BitVec 32} (apart : mask &&& other = 0) (en : Bool) (old : BitVec 32) :
    (enableBits mask en).apply old &&& other = old &&& other := by
  have notSet : ~~~mask &&& other = other := by
    apply BitVec.eq_of_getLsbD_eq
    intro i inside
    have bit := congrArg (fun value => value.getLsbD i) apart
    simp only [BitVec.getLsbD_and, BitVec.getLsbD_not, inside, decide_true, Bool.true_and] at bit ⊢
    cases masked : mask.getLsbD i <;> cases read : other.getLsbD i <;> simp_all
  cases en with
  | true => exact apply_keeps (BitVec.allOnes_and) apart old
  | false => exact apply_keeps notSet BitVec.zero_and old

/-- The registers of a BAT table as it is set up for a load. -/
theorem batTable_regs (base : BitVec 64) (size : BitVec 32) (en : Bool) :
    let set := (bus.run (dlSetBatBaseAddr base ++ dlSetBatSize size ++ dlBatEn en)).regs
    HwBank.batBase set = base ∧ HwBank.batSize set = size &&& DPMAIF_BAT_SIZE_MSK ∧ HwBank.batEn set = en := by
  have low : editOf DPMAIF_DL_BAT_INIT_CON0 (dlSetBatBaseAddr base ++ dlSetBatSize size ++ dlBatEn en) =
      (⟨BitVec.allOnes 32, 0⟩ : Edit 32).andThen (put (lower32Bits base)) := rfl
  have high : editOf DPMAIF_DL_BAT_INIT_CON3 (dlSetBatBaseAddr base ++ dlSetBatSize size ++ dlBatEn en) =
      (⟨BitVec.allOnes 32, 0⟩ : Edit 32).andThen (put (upper32Bits base)) := rfl
  have con1 : editOf DPMAIF_DL_BAT_INIT_CON1 (dlSetBatBaseAddr base ++ dlSetBatSize size ++ dlBatEn en) =
      ((⟨BitVec.allOnes 32, 0⟩ : Edit 32).andThen
        (assign DPMAIF_BAT_SIZE_MSK (size &&& DPMAIF_BAT_SIZE_MSK))).andThen
          (enableBits DPMAIF_BAT_EN_MSK en) := rfl
  refine ⟨?_, ?_, ?_⟩
  · unfold HwBank.batBase
    rw [bus_run_regs, bus_run_regs, low, high, andThen_apply, andThen_apply, put_apply, put_apply,
      upper_append_lower]
  · unfold HwBank.batSize
    rw [bus_run_regs, con1, andThen_apply, enableBits_keeps (by decide), andThen_apply, assign_reads]
  · unfold HwBank.batEn
    rw [bus_run_regs, con1, andThen_apply]
    exact enableBits_bit (by decide) en _

/-- The same for the PIT ring of a queue. -/
theorem pitRing_regs (base : BitVec 64) (size : BitVec 32) :
    let set := (bus.run (dlSetDlqPitBaseAddr base ++ dlSetDlqPitSize size ++ dlDlqPitEn)).regs
    set DPMAIF_DL_DLQPIT_INIT_CON4 ++ set DPMAIF_DL_DLQPIT_INIT_CON0 = base ∧
      set DPMAIF_DL_DLQPIT_INIT_CON1 &&& DPMAIF_PIT_SIZE_MSK = size &&& DPMAIF_PIT_SIZE_MSK ∧
      (set DPMAIF_DL_DLQPIT_INIT_CON3).getLsbD 20 = true := by
  have low : editOf DPMAIF_DL_DLQPIT_INIT_CON0 (dlSetDlqPitBaseAddr base ++ dlSetDlqPitSize size ++ dlDlqPitEn) =
      (⟨BitVec.allOnes 32, 0⟩ : Edit 32).andThen (put (lower32Bits base)) := rfl
  have high : editOf DPMAIF_DL_DLQPIT_INIT_CON4 (dlSetDlqPitBaseAddr base ++ dlSetDlqPitSize size ++ dlDlqPitEn) =
      (⟨BitVec.allOnes 32, 0⟩ : Edit 32).andThen (put (upper32Bits base)) := rfl
  have con1 : editOf DPMAIF_DL_DLQPIT_INIT_CON1 (dlSetDlqPitBaseAddr base ++ dlSetDlqPitSize size ++ dlDlqPitEn) =
      (⟨BitVec.allOnes 32, 0⟩ : Edit 32).andThen
        (assign DPMAIF_PIT_SIZE_MSK (size &&& DPMAIF_PIT_SIZE_MSK)) := rfl
  have con3 : editOf DPMAIF_DL_DLQPIT_INIT_CON3 (dlSetDlqPitBaseAddr base ++ dlSetDlqPitSize size ++ dlDlqPitEn) =
      ((⟨BitVec.allOnes 32, 0⟩ : Edit 32).andThen (put 0)).andThen (orIn DPMAIF_DLQPIT_EN_MSK) := rfl
  refine ⟨?_, ?_, ?_⟩
  · rw [bus_run_regs, bus_run_regs, low, high, andThen_apply, andThen_apply, put_apply, put_apply,
      upper_append_lower]
  · rw [bus_run_regs, con1, andThen_apply, assign_reads]
  · rw [bus_run_regs, con3, andThen_apply, andThen_apply, put_apply, orIn_apply]
    decide

/-- Setting up a BAT table loads it, unless the hardware is not ready for it. -/
theorem batTable_loads (polled : HwPoll → Bool) (frgEn : Bool) (base : BitVec 64) (size : BitVec 32)
    (en : Bool) :
    (dlBatInitDone polled frgEn
      (bus.run (dlSetBatBaseAddr base ++ dlSetBatSize size ++ dlBatEn en))).1.loads =
      bus.loads ++
        if polled (.batReady frgEn) then [.bat frgEn base (size &&& DPMAIF_BAT_SIZE_MSK) en] else [] := by
  have set := batTable_regs bus base size en
  have quiet : (bus.run (dlSetBatBaseAddr base ++ dlSetBatSize size ++ dlBatEn en)).loads = bus.loads := by
    apply loads_quiet
    intro a member
    simp only [dlSetBatBaseAddr, dlSetBatSize, dlBatEn, List.cons_append, List.nil_append, List.mem_cons,
      List.not_mem_nil, or_false] at member
    rcases member with rfl | rfl | rfl | rfl <;> rfl
  unfold dlBatInitDone
  cases ready : polled (.batReady frgEn) with
  | false => simpa using quiet
  | true =>
    dsimp only at set ⊢
    rw [if_neg (by decide), loads_write _ _ rfl, quiet, if_pos rfl]
    rw [tableLoad_bat, if_pos (by cases frgEn <;> decide), set.1, set.2.1, set.2.2]
    cases frgEn <;> rfl

theorem pitRing_loads (polled : HwPoll → Bool) (q : RxqIndex) (dlQue : DpmaifDl) :
    (configDlqPitHw polled q dlQue bus).loads = bus.loads ++
      if polled (.pitReady q) then
        [.pit q.val dlQue.pitBase (dlQue.pitSizeCnt &&& DPMAIF_PIT_SIZE_MSK) true] else [] := by
  have set := pitRing_regs bus dlQue.pitBase dlQue.pitSizeCnt
  have quiet : (bus.run (dlSetDlqPitBaseAddr dlQue.pitBase ++ dlSetDlqPitSize dlQue.pitSizeCnt ++
      dlDlqPitEn)).loads = bus.loads := by
    apply loads_quiet
    intro a member
    simp only [dlSetDlqPitBaseAddr, dlSetDlqPitSize, dlDlqPitEn, List.cons_append, List.nil_append,
      List.mem_cons, List.not_mem_nil, or_false] at member
    rcases member with rfl | rfl | rfl | rfl | rfl | rfl | rfl | rfl <;> rfl
  unfold configDlqPitHw dlDlqPitInitDone
  cases ready : polled (.pitReady q) with
  | false => simpa using quiet
  | true =>
    dsimp only at set ⊢
    rw [if_neg (by decide), loads_write _ _ rfl, quiet, if_pos rfl]
    unfold tableLoad
    dsimp only
    rw [if_pos rfl, set.1, set.2.1, set.2.2]
    match q with
    | 0 => rfl
    | 1 => rfl

end Loads

section Phases

variable (polled : HwPoll → Bool) (device : HwDevice) (bus : HwBus)

theorem batInitDone_ret (frgEn : Bool) :
    (dlBatInitDone polled frgEn bus).2 = polledRet (polled (.batReady frgEn) && polled (.batDone frgEn)) := by
  unfold dlBatInitDone
  cases polled (.batReady frgEn) <;> cases polled (.batDone frgEn) <;> rfl

theorem polledRet_eq_zero {ready : Bool} : polledRet ready = 0 ↔ ready = true := by
  cases ready <;> decide

/-- The loads of the PIT rings. -/
def pitLoads (info : HwInfo) : List TableLoad :=
  ((List.finRange 2).filter fun q => polled (.pitReady q)).map fun q =>
    .pit q.val (info.dlQue q).pitBase ((info.dlQue q).pitSizeCnt &&& DPMAIF_PIT_SIZE_MSK) true

theorem configAllDlqHw_loads (info : HwInfo) :
    (configAllDlqHw polled info bus).loads = bus.loads ++ pitLoads polled info := by
  change (configDlqPitHw polled 1 (info.dlQue 1) (configDlqPitHw polled 0 (info.dlQue 0) bus)).loads = _
  rw [pitRing_loads, pitRing_loads]
  have both : List.finRange 2 = [0, 1] := rfl
  unfold pitLoads
  rw [both, List.append_assoc]
  cases first : polled (.pitReady 0) <;> cases second : polled (.pitReady 1) <;> simp [first, second]

/-- The enabling of the normal table finds its registers as they were left. -/
theorem dlAllQEn_loads (enable : Bool) :
    (bus.run (dlAllQEn enable)).loads = bus.loads ++
      [.batEnable (HwBank.batBase bus.regs) (HwBank.batSize bus.regs) enable] := by
  have edited :
      (bus.run [⟨DPMAIF_DL_BAT_INIT_CON1, enableBits DPMAIF_BAT_EN_MSK enable⟩]).loads = bus.loads := by
    apply loads_quiet
    intro a member
    rw [List.mem_singleton.mp member]
    rfl
  have con1 : editOf DPMAIF_DL_BAT_INIT_CON1 [⟨DPMAIF_DL_BAT_INIT_CON1, enableBits DPMAIF_BAT_EN_MSK enable⟩] =
      (⟨BitVec.allOnes 32, 0⟩ : Edit 32).andThen (enableBits DPMAIF_BAT_EN_MSK enable) := rfl
  have split : bus.run (dlAllQEn enable) =
      (bus.run [⟨DPMAIF_DL_BAT_INIT_CON1, enableBits DPMAIF_BAT_EN_MSK enable⟩]).run
        [write DPMAIF_DL_BAT_INIT (DPMAIF_DL_BAT_INIT_ONLY_ENABLE_BIT ||| DPMAIF_DL_BAT_INIT_EN)] := rfl
  have base : HwBank.batBase (bus.run [⟨DPMAIF_DL_BAT_INIT_CON1, enableBits DPMAIF_BAT_EN_MSK enable⟩]).regs =
      HwBank.batBase bus.regs := rfl
  rw [split, loads_write _ _ rfl, edited, tableLoad_bat, if_neg (by decide), base]
  unfold HwBank.batSize HwBank.batEn
  rw [bus_run_regs, con1, andThen_apply, keepAll_apply, enableBits_keeps (by decide)]
  have bit : ((enableBits DPMAIF_BAT_EN_MSK enable).apply
      (bus.regs DPMAIF_DL_BAT_INIT_CON1)).getLsbD 16 = enable :=
    enableBits_bit (by decide) enable _
  rw [bit]

/-- All polls that `t7xx_dpmaif_config_dlq_hw` heeds. -/
def batPolls (polled : HwPoll → Bool) : Bool :=
  (polled (.batReady true) && polled (.batDone true)) && (polled (.batReady false) && polled (.batDone false))

def dlqLoads (polled : HwPoll → Bool) (info : HwInfo) : List TableLoad :=
  let dlQue := info.dlQue rxq0
  let size := dlQue.batSizeCnt &&& DPMAIF_BAT_SIZE_MSK
  [.bat true dlQue.frgBase (dlQue.frgSizeCnt &&& DPMAIF_BAT_SIZE_MSK) true] ++
    ([.bat false dlQue.batBase size false] ++ (pitLoads polled info ++ [.batEnable dlQue.batBase size true]))

/-- The registers that describe a PIT ring. -/
def pitRegs : List Nat :=
  [DPMAIF_DL_DLQPIT_INIT, DPMAIF_DL_DLQPIT_INIT_CON0, DPMAIF_DL_DLQPIT_INIT_CON1, DPMAIF_DL_DLQPIT_INIT_CON2,
   DPMAIF_DL_DLQPIT_INIT_CON3, DPMAIF_DL_DLQPIT_INIT_CON4, DPMAIF_DL_DLQPIT_INIT_CON5,
   DPMAIF_DL_DLQPIT_INIT_CON6]

theorem configDlqPitHw_untouched {reg : Nat} (other : reg ∉ pitRegs) (q : RxqIndex) (dlQue : DpmaifDl) :
    (configDlqPitHw polled q dlQue bus).regs reg = bus.regs reg := by
  have inside : ∀ a ∈ dlSetDlqPitBaseAddr dlQue.pitBase ++ dlSetDlqPitSize dlQue.pitSizeCnt ++ dlDlqPitEn,
      a.reg ∈ pitRegs := by
    intro a member
    simp only [dlSetDlqPitBaseAddr, dlSetDlqPitSize, dlDlqPitEn, List.cons_append, List.nil_append,
      List.mem_cons, List.not_mem_nil, or_false] at member
    rcases member with rfl | rfl | rfl | rfl | rfl | rfl | rfl | rfl <;> simp [pitRegs, write]
  have set : (bus.run (dlSetDlqPitBaseAddr dlQue.pitBase ++ dlSetDlqPitSize dlQue.pitSizeCnt ++
      dlDlqPitEn)).regs reg = bus.regs reg :=
    run_untouched loadsTable (fun a member same => other (by rw [← same]; exact inside a member)) bus
  unfold configDlqPitHw dlDlqPitInitDone
  dsimp only
  split
  · exact set
  · refine Eq.trans ?_ set
    apply run_untouched
    intro a member same
    rw [List.mem_singleton.mp member] at same
    exact other (same ▸ List.mem_cons_self)

theorem configAllDlqHw_untouched {reg : Nat} (other : reg ∉ pitRegs) (info : HwInfo) :
    (configAllDlqHw polled info bus).regs reg = bus.regs reg :=
  (configDlqPitHw_untouched polled _ other 1 _).trans (configDlqPitHw_untouched polled bus other 0 _)

theorem dlDlqHpcHwInit_quiet : ∀ a ∈ dlDlqHpcHwInit, loadsTable a.reg = false := by decide

theorem dlSettings_quiet : ∀ a ∈ dlSettings, loadsTable a.reg = false := by decide

/-- A call loads the tables of `want` in this order, possibly not all, and all of them if it succeeds,
    which it does exactly if `ok`. -/
structure LoadsUpTo (want : List TableLoad) (ok : Bool) (before after : HwBus) (ret : Int) : Prop where
  ordered : ∃ loads, after.loads = before.loads ++ loads ∧ loads <+: want ∧ (ok = true → loads = want)
  returned : ret = polledRet ok

theorem loadsUpTo_quiet {program : List HwAccess} (quiet : ∀ a ∈ program, loadsTable a.reg = false)
    {want : List TableLoad} {ok : Bool} {after : HwBus} {ret : Int}
    (rest : LoadsUpTo want ok (bus.run program) after ret) : LoadsUpTo want ok bus after ret where
  ordered := loads_quiet bus quiet ▸ rest.ordered
  returned := rest.returned

theorem loadsUpTo_then {σ : Type*} (view : σ → HwBus) {want more : List TableLoad} {ok okMore : Bool}
    {out : σ × Int} {f : σ → σ × Int} (first : LoadsUpTo want ok bus (view out.1) out.2)
    (second : ok = true → LoadsUpTo more okMore (view out.1) (view (f out.1).1) (f out.1).2) :
    LoadsUpTo (want ++ more) (ok && okMore) bus (view (onSuccess out f).1) (onSuccess out f).2 := by
  obtain ⟨loads, made, ordered, all⟩ := first.ordered
  cases ok with
  | false =>
    rw [onSuccess_failed (by rw [first.returned]; decide)]
    refine ⟨⟨loads, made, ordered.trans (List.prefix_append want more), ?_⟩, first.returned⟩
    intro other
    cases other
  | true =>
    rw [onSuccess_done first.returned, Bool.true_and]
    obtain ⟨⟨later, madeLater, orderedLater, allLater⟩, ret⟩ := second rfl
    rw [all rfl] at made
    refine ⟨⟨want ++ later, ?_, (List.prefix_append_right_inj want).mpr orderedLater, ?_⟩, ret⟩
    · rw [madeLater, made, List.append_assoc]
    · exact fun done => congrArg _ (allLater done)

/-- A program that loads nothing, at the end of a call that succeeds. -/
theorem loadsUpTo_last {program : List HwAccess} (quiet : ∀ a ∈ program, loadsTable a.reg = false) :
    LoadsUpTo [] true bus (bus.run program) 0 := by
  refine ⟨⟨[], ?_, List.prefix_rfl, fun _ => rfl⟩, rfl⟩
  rw [loads_quiet bus quiet, List.append_nil]

theorem hwConfig_loads :
    LoadsUpTo [] (polled .memClr) bus (hwConfig polled device bus).1 (hwConfig polled device bus).2 := by
  have cleared : LoadsUpTo [] (polled .memClr) bus (sramInit polled device (hwReset device bus)).1
      (polledRet (polled .memClr)) := by
    have reset : (hwReset device bus).loads = bus.loads := loads_quiet bus (by decide)
    have same : (sramInit polled device (hwReset device bus)).1.loads = bus.loads :=
      (loads_quiet (hwReset device bus) (by decide)).trans reset
    exact ⟨⟨[], by rw [same, List.append_nil], List.prefix_rfl, fun _ => rfl⟩, rfl⟩
  have result := @loadsUpTo_then bus _ id _ _ _ _ (sramInit polled device (hwReset device bus))
    (fun bus => (bus.run portModeClock, 0)) cleared fun _ => loadsUpTo_last _ (by decide)
  rwa [Bool.and_true] at result

theorem initIntr_loads (s : HwState) : LoadsUpTo [] (polled .ulMask && polled .dlMask) s.bus
    (initIntr polled s).1.bus (initIntr polled s).2 := by
  unfold initIntr
  cases polled .ulMask with
  | false => exact ⟨⟨[], (List.append_nil _).symm, List.prefix_rfl, fun _ => rfl⟩, rfl⟩
  | true =>
    cases polled .dlMask with
    | false => exact ⟨⟨[], (List.append_nil _).symm, List.prefix_rfl, fun _ => rfl⟩, rfl⟩
    | true => exact ⟨⟨[], (List.append_nil _).symm, List.prefix_rfl, fun _ => rfl⟩, rfl⟩

theorem batInitDone_loadsUpTo (frgEn : Bool) (base : BitVec 64) (size : BitVec 32) (en : Bool) :
    let out := dlBatInitDone polled frgEn (bus.run (dlSetBatBaseAddr base ++ dlSetBatSize size ++ dlBatEn en))
    LoadsUpTo [.bat frgEn base (size &&& DPMAIF_BAT_SIZE_MSK) en]
      (polled (.batReady frgEn) && polled (.batDone frgEn)) bus out.1 out.2 := by
  refine ⟨⟨_, batTable_loads bus polled frgEn base size en, ?_, ?_⟩, batInitDone_ret ..⟩
  · split
    · exact List.prefix_rfl
    · exact List.nil_prefix
  · intro done
    rw [if_pos (Bool.and_eq_true_iff.mp done).1]

theorem batInitDone_untouched {reg : Nat} (other : DPMAIF_DL_BAT_INIT ≠ reg) (frgEn : Bool) :
    (dlBatInitDone polled frgEn bus).1.regs reg = bus.regs reg := by
  unfold dlBatInitDone
  dsimp only
  split
  · rfl
  · apply run_untouched
    intro a member
    rwa [List.mem_singleton.mp member]

theorem normalTable_kept (base : BitVec 64) (size : BitVec 32) :
    let loaded := (dlBatInitDone polled false
      (bus.run (dlSetBatBaseAddr base ++ dlSetBatSize size ++ dlBatEn false))).1
    HwBank.batBase loaded.regs = base ∧ HwBank.batSize loaded.regs = size &&& DPMAIF_BAT_SIZE_MSK := by
  obtain ⟨setBase, setSize, _⟩ := batTable_regs bus base size false
  constructor
  · unfold HwBank.batBase
    rw [batInitDone_untouched polled _ (by decide), batInitDone_untouched polled _ (by decide)]
    exact setBase
  · unfold HwBank.batSize
    rw [batInitDone_untouched polled _ (by decide)]
    exact setSize

/-- The PIT rings and the enabling of the normal table, which its registers still describe. -/
theorem pitRings_loadsUpTo (info : HwInfo) :
    LoadsUpTo (pitLoads polled info ++ [.batEnable (HwBank.batBase bus.regs) (HwBank.batSize bus.regs) true])
      true bus (((configAllDlqHw polled info bus).run (dlAllQEn true)).run dlSetPktChecksum) 0 := by
  have low := @configAllDlqHw_untouched polled bus DPMAIF_DL_BAT_INIT_CON0 (by decide) info
  have high := @configAllDlqHw_untouched polled bus DPMAIF_DL_BAT_INIT_CON3 (by decide) info
  have con1 := @configAllDlqHw_untouched polled bus DPMAIF_DL_BAT_INIT_CON1 (by decide) info
  have base : HwBank.batBase (configAllDlqHw polled info bus).regs = HwBank.batBase bus.regs := by
    unfold HwBank.batBase
    rw [low, high]
  have size : HwBank.batSize (configAllDlqHw polled info bus).regs = HwBank.batSize bus.regs := by
    unfold HwBank.batSize
    rw [con1]
  refine ⟨⟨_, ?_, List.prefix_rfl, fun _ => rfl⟩, rfl⟩
  rw [loads_quiet _ (by decide), dlAllQEn_loads, configAllDlqHw_loads, base, size, List.append_assoc]

/-- Every way through the configuration loads tables in its order, and all of them if it succeeds. -/
theorem configDlqHw_loads {info : HwInfo} (started : (info.dlQue rxq0).queStarted = true) :
    LoadsUpTo (dlqLoads polled info) (batPolls polled) bus (configDlqHw polled info bus).1
      (configDlqHw polled info bus).2 := by
  unfold configDlqHw
  dsimp only
  rw [if_neg (by rw [started]; decide)]
  apply loadsUpTo_quiet bus dlDlqHpcHwInit_quiet
  apply loadsUpTo_quiet _ dlSettings_quiet
  have frg := batInitDone_loadsUpTo polled ((bus.run dlDlqHpcHwInit).run dlSettings) true
    (info.dlQue rxq0).frgBase (info.dlQue rxq0).frgSizeCnt true
  refine loadsUpTo_then _ id frg fun _ => ?_
  dsimp only [id_eq]
  generalize (dlBatInitDone polled true _).1 = loaded
  have normal := batInitDone_loadsUpTo polled loaded false (info.dlQue rxq0).batBase
    (info.dlQue rxq0).batSizeCnt false
  have result := loadsUpTo_then loaded id normal (f := fun bus =>
    (((configAllDlqHw polled info bus).run (dlAllQEn true)).run dlSetPktChecksum, 0))
    fun _ => pitRings_loadsUpTo polled _ info
  obtain ⟨base, size⟩ := normalTable_kept polled loaded (info.dlQue rxq0).batBase (info.dlQue rxq0).batSizeCnt
  simp only [id_eq] at result
  rwa [base, size, Bool.and_true] at result

theorem hwInitDone_loads : LoadsUpTo [] (polled .sramSync) bus (hwInitDone polled bus).1
    (hwInitDone polled bus).2 := by
  unfold hwInitDone
  cases polled .sramSync with
  | false => exact ⟨⟨[], (List.append_nil _).symm, List.prefix_rfl, fun _ => rfl⟩, rfl⟩
  | true => exact ⟨⟨[], (List.append_nil _).symm, List.prefix_rfl, fun _ => rfl⟩, rfl⟩

theorem configUlqHw_quiet (info : HwInfo) : ∀ a ∈ configUlqHw info, loadsTable a.reg = false := by
  intro a member
  obtain ⟨q, _, inQueue⟩ := List.mem_flatMap.mp member
  unfold configUlq at inQueue
  have arb : loadsTable DPMAIF_AO_UL_CHNL_ARB0 = false := by decide
  have regs : ∀ q : TxqIndex, loadsTable (DPMAIF_UL_DRBSIZE_ADDRH_n q) = false ∧
      loadsTable (DPMAIF_ULQSAR_n q) = false ∧ loadsTable (DPMAIF_UL_DRB_ADDRH_n q) = false := by decide
  split at inQueue
  · simp only [ulUpdateDrbSize, ulUpdateDrbBaseAddr, ulRdyEn, ulArbEn, List.cons_append, List.nil_append,
      List.mem_cons, List.not_mem_nil, or_false] at inQueue
    rcases inQueue with rfl | rfl | rfl | rfl | rfl
    · exact (regs q).1
    · exact (regs q).2.1
    · exact (regs q).2.2
    · exact arb
    · exact arb
  · rw [List.mem_singleton.mp inQueue]
    exact arb

/-- The polls that `t7xx_dpmaif_hw_init` heeds: those of the PIT rings are not among them. -/
def hwInitPolls (polled : HwPoll → Bool) : Bool :=
  polled .memClr && ((polled .ulMask && polled .dlMask) && (batPolls polled && polled .sramSync))

end Phases

theorem hwInit_loads (polled : HwPoll → Bool) (device : HwDevice) (para : HwParams) (s : HwState) :
    LoadsUpTo (initLoads polled para) (hwInitPolls polled) s.bus (hwInit polled device para s).1.bus
      (hwInit polled device para s).2 := by
  have all : ([] : List TableLoad) ++ ([] ++ (dlqLoads polled (setQueueProperty para s.info) ++ [])) =
      initLoads polled para := by
    rw [List.nil_append, List.nil_append, List.append_nil]
    rfl
  unfold hwInit
  have config : LoadsUpTo [] (polled .memClr) s.bus (s.onBus (hwConfig polled device)).1.bus
      (s.onBus (hwConfig polled device)).2 := hwConfig_loads polled device s.bus
  refine all ▸ loadsUpTo_then s.bus HwState.bus config fun _ => ?_
  refine loadsUpTo_then _ HwState.bus (initIntr_loads polled _) fun _ => ?_
  refine loadsUpTo_then _ HwState.bus (loadsUpTo_quiet _ (by decide) (configDlqHw_loads polled _ rfl)) fun _ => ?_
  exact loadsUpTo_quiet _ (configUlqHw_quiet _) (hwInitDone_loads polled _)

section Settings

/-- A field of a register and what it is set to. -/
structure HwSetting where
  reg : Nat
  mask : BitVec 32
  value : BitVec 32

def hwSettings : List HwSetting :=
  [⟨DPMAIF_AP_CG_EN, genmask 31 0, DPMAIF_CG_EN⟩,
   ⟨DPMAIF_AO_AP_DLUL_IP_BUSY_MASK, genmask 31 0, DPMAIF_UDL_IP_BUSY⟩,
   ⟨DPMAIF_AO_UL_AP_L1TIMR0, DPMAIF_DL_INT_Q2APTOP ||| DPMAIF_DL_INT_Q2TOQ1,
    DPMAIF_DL_INT_Q2APTOP ||| DPMAIF_DL_INT_Q2TOQ1⟩,
   ⟨DPMAIF_HPC_INTR_MASK, genmask 31 0, DPMA_HPC_ALL_INT_MASK⟩,
   ⟨DPMAIF_UL_RESERVE_AO_RW, genmask 31 0, DPMAIF_PCIE_MODE_SET_VALUE⟩,
   ⟨DPMAIF_AO_DL_RDY_CHK_THRES, DPMAIF_PORT_MODE_PCIE, DPMAIF_PORT_MODE_PCIE⟩,
   ⟨DPMAIF_AO_DL_RDY_CHK_THRES, DPMAIF_DL_BURST_PIT_EN, DPMAIF_DL_BURST_PIT_EN⟩,
   ⟨DPMAIF_AO_DL_RDY_CHK_THRES, DPMAIF_PKT_ALIGN_MSK, DPMAIF_PKT_ALIGN_EN⟩,
   ⟨DPMAIF_AO_DL_RDY_CHK_THRES, DPMAIF_BAT_CHECK_THRES_MSK, DPMAIF_HW_CHK_BAT_NUM <<< 16⟩,
   ⟨DPMAIF_AO_DL_RDY_CHK_THRES, DPMAIF_DL_PKT_CHECKSUM_EN, DPMAIF_DL_PKT_CHECKSUM_EN⟩,
   ⟨DPMAIF_AO_DL_RDY_CHK_FRG_THRES, DPMAIF_FRG_BUF_SZ_MSK, 1 <<< 8⟩,
   ⟨DPMAIF_AO_DL_RDY_CHK_FRG_THRES, DPMAIF_FRG_CHECK_THRES_MSK, DPMAIF_HW_CHK_FRG_NUM⟩,
   ⟨DPMAIF_AO_DL_RDY_CHK_FRG_THRES, DPMAIF_FRG_EN_MSK, DPMAIF_FRG_EN_MSK⟩,
   ⟨DPMAIF_AO_DL_PKTINFO_CON0, DPMAIF_BAT_REMAIN_MINSZ_MSK, 4 <<< 8⟩,
   ⟨DPMAIF_AO_DL_PKTINFO_CON0, DPMAIF_BAT_BID_MAXCNT_MSK, DPMAIF_HW_PKT_BIDCNT <<< 16⟩,
   ⟨DPMAIF_AO_DL_PKTINFO_CON1, genmask 31 0, DPMAIF_HW_MTU_SIZE⟩,
   ⟨DPMAIF_AO_DL_PKTINFO_CON2, DPMAIF_PIT_CHK_NUM_MSK, DPMAIF_HW_CHK_PIT_NUM <<< 24⟩,
   ⟨DPMAIF_AO_DL_PKTINFO_CON2, DPMAIF_BAT_BUF_SZ_MSK, 28 <<< 8⟩,
   ⟨DPMAIF_AO_DL_PKTINFO_CON2, DPMAIF_BAT_RSV_LEN_MSK, DPMAIF_HW_BAT_RSVLEN⟩,
   ⟨DPMAIF_AO_DL_PIT_SEQ_END, DPMAIF_DL_PIT_SEQ_MSK, BitVec.ofNat 32 DPMAIF_DL_PIT_SEQ_VALUE⟩,
   ⟨DPMAIF_AO_DL_HPC_CNTL, genmask 31 0, 0x8d3⟩,
   ⟨DPMAIF_AO_DL_DLQ_AGG_CFG, genmask 31 0, 0x32ffff⟩,
   ⟨DPMAIF_AO_DL_DLQPIT_TIMEOUT0, genmask 31 0, DPMAIF_MID_TIMEOUT_THRES_DF⟩,
   ⟨DPMAIF_AO_DL_DLQPIT_TIMEOUT1, genmask 31 0, 0x640064⟩,
   ⟨DPMAIF_AO_DL_DLQPIT_TIMEOUT1 + 4, genmask 31 0, 0x640064⟩,
   ⟨DPMAIF_AO_DL_DLQPIT_TIMEOUT1 + 8, genmask 31 0, 0x640064⟩,
   ⟨DPMAIF_AO_DL_DLQPIT_TIMEOUT1 + 12, genmask 31 0, 0x640064⟩,
   ⟨DPMAIF_AO_DL_DLQPIT_TRIG_THRES, genmask 31 0, DPMAIF_DLQ_PRS_THRES_DF⟩,
   ⟨DPMAIF_AO_DL_DLQPIT_INIT_CON5, genmask 31 0, DPMAIF_DLQ_HASH_BIT_CHOOSE_DF⟩,
   ⟨DPMAIF_AO_UL_INIT_SET, genmask 31 0, DPMAIF_UL_INIT_DONE⟩,
   ⟨DPMAIF_AO_DL_INIT_SET, genmask 31 0, DPMAIF_DL_INIT_DONE⟩]

/-- The registers hold the rings and tables of `para` and the settings of the driver. -/
structure Programmed (para : HwParams) (regs : HwBank) : Prop where
  drbBase : ∀ q, regs (DPMAIF_UL_DRB_ADDRH_n q) ++ regs (DPMAIF_ULQSAR_n q) = para.drbBaseAddr q
  drbSize : ∀ q, regs (DPMAIF_UL_DRBSIZE_ADDRH_n q) &&& DPMAIF_DRB_SIZE_MSK =
    para.drbSizeCnt q * BitVec.ofNat 32 DPMAIF_UL_DRB_SIZE_WORD &&& DPMAIF_DRB_SIZE_MSK
  ulRdy : ∀ q : TxqIndex, (regs DPMAIF_AO_UL_CHNL_ARB0).getLsbD q.val = true
  batBase : regs.batBase = para.pktBatBaseAddr rxq0
  batSize : regs.batSize = para.pktBatSizeCnt rxq0 &&& DPMAIF_BAT_SIZE_MSK
  settings : ∀ setting ∈ hwSettings, regs setting.reg &&& setting.mask = setting.value

variable (polled : HwPoll → Bool) (device : HwDevice) (para : HwParams) (s : HwState)

/-- What the clearing of the memory leaves to the rest of the initialisation. -/
def clearedBus : HwBus := (sramInit polled device (hwReset device s.bus)).1

/-- The queues as `t7xx_dpmaif_set_queue_property` leaves them. -/
def queueInfo (mask : IsrEnMask) : HwInfo := setQueueProperty para { s.info with isrEnMask := mask }

def intrProgram : List HwAccess :=
  [write DPMAIF_AP_L2TISAR0 DPMAIF_AP_ALL_L2TISAR0_MASK,
   write DPMAIF_AO_UL_AP_L2TIMCR0 ulIntrEnable,
   write DPMAIF_AO_UL_AP_L2TIMSR0 (~~~ulIntrEnable),
   write DPMAIF_AP_APDL_L2TISAR0 DPMAIF_AP_APDL_ALL_L2TISAR0_MASK,
   write DPMAIF_AO_UL_APDL_L2TIMSR0 (~~~dlqIntrEnable),
   write DPMAIF_AP_IP_BUSY DPMAIF_AP_IP_BUSY_MASK,
   write DPMAIF_AO_AP_DLUL_IP_BUSY_MASK DPMAIF_UDL_IP_BUSY,
   ⟨DPMAIF_AO_UL_AP_L1TIMR0, orIn (DPMAIF_DL_INT_Q2APTOP ||| DPMAIF_DL_INT_Q2TOQ1)⟩,
   write DPMAIF_HPC_INTR_MASK DPMA_HPC_ALL_INT_MASK]

def batProgram (dlQue : DpmaifDl) : List HwAccess :=
  dlDlqHpcHwInit ++ dlSettings ++
    (dlSetBatBaseAddr dlQue.frgBase ++ dlSetBatSize dlQue.frgSizeCnt ++ dlBatEn true) ++
    [write DPMAIF_DL_BAT_INIT (DPMAIF_DL_BAT_FRG_INIT ||| DPMAIF_DL_BAT_INIT_ALLSET ||| DPMAIF_DL_BAT_INIT_EN)] ++
    (dlSetBatBaseAddr dlQue.batBase ++ dlSetBatSize dlQue.batSizeCnt ++ dlBatEn false) ++
    [write DPMAIF_DL_BAT_INIT (0 ||| DPMAIF_DL_BAT_INIT_ALLSET ||| DPMAIF_DL_BAT_INIT_EN)]

/-- The accesses of a successful initialisation before those for the PIT rings, and after them. -/
def beforePit (info : HwInfo) : List HwAccess :=
  portModeClock ++ intrProgram ++ (pcieDpmaifSign ++ dlPerformance) ++ batProgram (info.dlQue rxq0)

def afterPit (info : HwInfo) : List HwAccess :=
  dlAllQEn true ++ dlSetPktChecksum ++ configUlqHw info ++
    [⟨DPMAIF_AP_OVERWRITE_CFG, orIn DPMAIF_SRAM_SYNC⟩] ++
    [write DPMAIF_AO_UL_INIT_SET DPMAIF_UL_INIT_DONE, write DPMAIF_AO_DL_INIT_SET DPMAIF_DL_INIT_DONE]

theorem initIntr_done (ulMask : polled .ulMask = true) (dlMask : polled .dlMask = true) :
    ∃ mask, initIntr polled s = ((s.setMask mask).run intrProgram, 0) := by
  unfold initIntr
  rw [ulMask, dlMask]
  exact ⟨_, rfl⟩

theorem configDlqHw_done {info : HwInfo} {bus : HwBus} (started : (info.dlQue rxq0).queStarted = true)
    (done : batPolls polled = true) :
    configDlqHw polled info bus =
      ((configAllDlqHw polled info (bus.run (batProgram (info.dlQue rxq0)))).run
        (dlAllQEn true ++ dlSetPktChecksum), 0) := by
  unfold batPolls at done
  simp only [Bool.and_eq_true] at done
  obtain ⟨⟨frgReady, frgDone⟩, ready, batDone⟩ := done
  unfold configDlqHw dlBatInitDone batProgram
  simp only [started, frgReady, frgDone, ready, batDone, bus_run_append, polledRet, onSuccess,
    Bool.true_eq_false, Bool.false_eq_true, if_true, if_false, ne_eq, not_true_eq_false]

theorem hwInit_done (done : hwInitPolls polled = true) :
    ∃ mask, (hwInit polled device para s).1.bus =
      (configAllDlqHw polled (queueInfo para s mask) ((clearedBus polled device s).run
        (beforePit (queueInfo para s mask)))).run (afterPit (queueInfo para s mask)) := by
  unfold hwInitPolls at done
  simp only [Bool.and_eq_true] at done
  obtain ⟨memClr, ⟨ulMask, dlMask⟩, bat, sramSync⟩ := done
  have cleared : (sramInit polled device (hwReset device s.bus)).2 = 0 := by
    change polledRet (polled .memClr) = 0
    rw [memClr]
    rfl
  have config : s.onBus (hwConfig polled device) =
      ({ s with bus := (clearedBus polled device s).run portModeClock }, 0) := by
    unfold HwState.onBus hwConfig
    rw [onSuccess_done cleared]
    rfl
  obtain ⟨mask, intr⟩ := initIntr_done polled { s with bus := (clearedBus polled device s).run portModeClock }
    ulMask dlMask
  refine ⟨mask, ?_⟩
  unfold hwInit
  rw [config, onSuccess_done rfl, intr, onSuccess_done rfl]
  dsimp only
  have tables := @configDlqHw_done polled (queueInfo para s mask)
    ((((clearedBus polled device s).run portModeClock).run intrProgram).run (pcieDpmaifSign ++ dlPerformance))
    rfl bat
  have queues : HwState.onBus
      ⟨queueInfo para s mask, (((clearedBus polled device s).run portModeClock).run intrProgram).run
        (pcieDpmaifSign ++ dlPerformance)⟩ (configDlqHw polled (queueInfo para s mask)) =
      (⟨queueInfo para s mask, (configAllDlqHw polled (queueInfo para s mask)
        ((clearedBus polled device s).run (beforePit (queueInfo para s mask)))).run
          (dlAllQEn true ++ dlSetPktChecksum)⟩, 0) := by
    unfold HwState.onBus beforePit
    rw [tables]
    simp only [bus_run_append]
  refine (congrArg (fun r => (onSuccess r fun s => (s.run (configUlqHw s.info)).onBus
    (hwInitDone polled)).1.bus) queues).trans ?_
  rw [onSuccess_done rfl]
  unfold HwState.onBus hwInitDone afterPit
  rw [sramSync, if_neg (by decide)]
  simp only [bus_run_append]
  rfl

/-- Outside the PIT rings a register is what the two programs make of it. -/
theorem hwInit_regs (done : hwInitPolls polled = true) :
    ∃ mask, ∀ reg ∉ pitRegs, (hwInit polled device para s).1.bus.regs reg =
      ((editOf reg (beforePit (queueInfo para s mask))).andThen
        (editOf reg (afterPit (queueInfo para s mask)))).apply ((clearedBus polled device s).regs reg) := by
  obtain ⟨mask, run⟩ := hwInit_done polled device para s done
  refine ⟨mask, fun reg other => ?_⟩
  rw [run, bus_run_regs, configAllDlqHw_untouched polled _ other, bus_run_regs, andThen_apply]

/-- The registers of the tables and rings, and of the UL arbiter. -/
def tableRegs : List Nat :=
  pitRegs ++ [DPMAIF_DL_BAT_INIT, DPMAIF_DL_BAT_INIT_CON0, DPMAIF_DL_BAT_INIT_CON1, DPMAIF_DL_BAT_INIT_CON3,
    DPMAIF_AO_UL_CHNL_ARB0] ++
    (List.finRange DPMAIF_TXQ_NUM).flatMap fun q =>
      [DPMAIF_UL_DRBSIZE_ADDRH_n q, DPMAIF_ULQSAR_n q, DPMAIF_UL_DRB_ADDRH_n q]

theorem batTable_inside (addr : BitVec 64) (size value : BitVec 32) (en : Bool) :
    (∀ a ∈ dlSetBatBaseAddr addr, a.reg ∈ tableRegs) ∧
      (∀ a ∈ dlSetBatSize size, a.reg ∈ tableRegs) ∧
      (∀ a ∈ dlBatEn en, a.reg ∈ tableRegs) ∧
      ∀ a ∈ [write DPMAIF_DL_BAT_INIT value], a.reg ∈ tableRegs := by
  simp [dlSetBatBaseAddr, dlSetBatSize, dlBatEn, write, tableRegs]

theorem configUlqHw_inside (info : HwInfo) : ∀ a ∈ configUlqHw info, a.reg ∈ tableRegs := by
  intro a member
  obtain ⟨q, _, inQueue⟩ := List.mem_flatMap.mp member
  have rings : ∀ q : TxqIndex, DPMAIF_UL_DRBSIZE_ADDRH_n q ∈ tableRegs ∧ DPMAIF_ULQSAR_n q ∈ tableRegs ∧
      DPMAIF_UL_DRB_ADDRH_n q ∈ tableRegs := by decide
  have arb : DPMAIF_AO_UL_CHNL_ARB0 ∈ tableRegs := by decide
  unfold configUlq at inQueue
  split at inQueue
  · simp only [ulUpdateDrbSize, ulUpdateDrbBaseAddr, ulRdyEn, ulArbEn, List.cons_append, List.nil_append,
      List.mem_cons, List.not_mem_nil, or_false] at inQueue
    rcases inQueue with rfl | rfl | rfl | rfl | rfl
    · exact (rings q).1
    · exact (rings q).2.1
    · exact (rings q).2.2
    · exact arb
    · exact arb
  · rw [List.mem_singleton.mp inQueue]
    exact arb

theorem editOf_outside {reg : Nat} (outside : reg ∉ tableRegs) {program : List HwAccess}
    (inside : ∀ a ∈ program, a.reg ∈ tableRegs) : editOf reg program = ⟨BitVec.allOnes 32, 0⟩ := by
  apply editOf_untouched
  intro a member same
  apply outside
  rw [← same]
  exact inside a member

/-- What the initialisation runs for the registers that describe neither table nor ring. -/
def settingsProgram : List HwAccess :=
  portModeClock ++ intrProgram ++ (pcieDpmaifSign ++ dlPerformance) ++ (dlDlqHpcHwInit ++ dlSettings) ++
    dlSetPktChecksum ++ [⟨DPMAIF_AP_OVERWRITE_CFG, orIn DPMAIF_SRAM_SYNC⟩] ++
    [write DPMAIF_AO_UL_INIT_SET DPMAIF_UL_INIT_DONE, write DPMAIF_AO_DL_INIT_SET DPMAIF_DL_INIT_DONE]

theorem editOf_settings {reg : Nat} (outside : reg ∉ tableRegs) (info : HwInfo) :
    (editOf reg (beforePit info)).andThen (editOf reg (afterPit info)) = editOf reg settingsProgram := by
  have table := fun addr size value en => batTable_inside addr size value en
  have base := fun addr => editOf_outside outside (table addr 0 0 true).1
  have size := fun size => editOf_outside outside (table 0 size 0 true).2.1
  have en := fun en => editOf_outside outside (table 0 0 0 en).2.2.1
  have load := fun value => editOf_outside outside (table 0 0 value true).2.2.2
  have enable : editOf reg (dlAllQEn true) = ⟨BitVec.allOnes 32, 0⟩ := editOf_outside outside (by decide)
  have ulq := editOf_outside outside (configUlqHw_inside info)
  unfold beforePit afterPit batProgram settingsProgram
  simp only [editOf_append, base, size, en, load, enable, ulq, keepAll_andThen, andThen_keepAll, andThen_assoc]

theorem settings_written : ∀ setting ∈ hwSettings, setting.reg ∉ tableRegs ∧
    let e := editOf setting.reg settingsProgram
    e.keep &&& setting.mask &&& ~~~e.set = 0 ∧ e.set &&& setting.mask = setting.value := by
  decide

/-- The registers that the UL queues leave when all are started. -/
theorem configUlqHw_edits (mask : IsrEnMask) (q : TxqIndex) :
    let info := queueInfo para s mask
    editOf (DPMAIF_ULQSAR_n q) (configUlqHw info) =
        (⟨BitVec.allOnes 32, 0⟩ : Edit 32).andThen (put (lower32Bits (para.drbBaseAddr q))) ∧
      editOf (DPMAIF_UL_DRB_ADDRH_n q) (configUlqHw info) =
        (⟨BitVec.allOnes 32, 0⟩ : Edit 32).andThen (put (upper32Bits (para.drbBaseAddr q))) ∧
      editOf (DPMAIF_UL_DRBSIZE_ADDRH_n q) (configUlqHw info) =
        (⟨BitVec.allOnes 32, 0⟩ : Edit 32).andThen (assign DPMAIF_DRB_SIZE_MSK
          (para.drbSizeCnt q * BitVec.ofNat 32 DPMAIF_UL_DRB_SIZE_WORD &&& DPMAIF_DRB_SIZE_MSK)) := by
  match q with
  | ⟨0, _⟩ => exact ⟨rfl, rfl, rfl⟩
  | ⟨1, _⟩ => exact ⟨rfl, rfl, rfl⟩
  | ⟨2, _⟩ => exact ⟨rfl, rfl, rfl⟩
  | ⟨3, _⟩ => exact ⟨rfl, rfl, rfl⟩
  | ⟨4, _⟩ => exact ⟨rfl, rfl, rfl⟩

def arbProgram : List HwAccess :=
  (List.finRange DPMAIF_TXQ_NUM).flatMap fun q => ulRdyEn q true ++ ulArbEn q true

theorem editOf_arb (mask : IsrEnMask) :
    editOf DPMAIF_AO_UL_CHNL_ARB0 (configUlqHw (queueInfo para s mask)) =
      editOf DPMAIF_AO_UL_CHNL_ARB0 arbProgram := by
  apply editOf_flatMap
  intro q
  have other : ∀ q : TxqIndex, DPMAIF_UL_DRBSIZE_ADDRH_n q ≠ DPMAIF_AO_UL_CHNL_ARB0 ∧
      DPMAIF_ULQSAR_n q ≠ DPMAIF_AO_UL_CHNL_ARB0 ∧
        DPMAIF_UL_DRB_ADDRH_n q ≠ DPMAIF_AO_UL_CHNL_ARB0 := by decide
  have size : ∀ size, editOf DPMAIF_AO_UL_CHNL_ARB0 (ulUpdateDrbSize q size) = ⟨BitVec.allOnes 32, 0⟩ :=
    fun size => editOf_untouched (by simpa [ulUpdateDrbSize] using (other q).1)
  have base : ∀ addr, editOf DPMAIF_AO_UL_CHNL_ARB0 (ulUpdateDrbBaseAddr q addr) = ⟨BitVec.allOnes 32, 0⟩ :=
    fun addr => editOf_untouched (by simpa [ulUpdateDrbBaseAddr, write] using (other q).2)
  change editOf DPMAIF_AO_UL_CHNL_ARB0 (_ ++ _ ++ _ ++ _) = _
  rw [editOf_append, editOf_append, editOf_append, size, base, editOf_append, keepAll_andThen, keepAll_andThen]

/-- All accesses of `arbProgram` only set bits: those of the queues. -/
theorem arbProgram_edit : editOf DPMAIF_AO_UL_CHNL_ARB0 arbProgram = orIn 0x1f1f := by decide

/-- After the UL queues the initialisation writes three registers more, none of them theirs. -/
theorem configUlqHw_last (info : HwInfo) {reg : Nat} (ring : reg ∈ tableRegs) (old : BitVec 32) :
    ∃ value, ((editOf reg (beforePit info)).andThen (editOf reg (afterPit info))).apply old =
      (editOf reg (configUlqHw info)).apply value := by
  have rest : ∀ reg ∈ tableRegs, editOf reg [⟨DPMAIF_AP_OVERWRITE_CFG, orIn DPMAIF_SRAM_SYNC⟩] =
      (⟨BitVec.allOnes 32, 0⟩ : Edit 32) ∧ editOf reg [write DPMAIF_AO_UL_INIT_SET DPMAIF_UL_INIT_DONE,
        write DPMAIF_AO_DL_INIT_SET DPMAIF_DL_INIT_DONE] = (⟨BitVec.allOnes 32, 0⟩ : Edit 32) := by decide
  unfold afterPit
  rw [editOf_append, editOf_append, editOf_append _ _ (configUlqHw info), (rest reg ring).1, (rest reg ring).2,
    andThen_keepAll, andThen_keepAll, andThen_apply, andThen_apply]
  exact ⟨_, rfl⟩

theorem ring_inside : ∀ q : TxqIndex,
    DPMAIF_UL_DRBSIZE_ADDRH_n q ∈ tableRegs ∧ DPMAIF_ULQSAR_n q ∈ tableRegs ∧
    DPMAIF_UL_DRB_ADDRH_n q ∈ tableRegs ∧ DPMAIF_UL_DRBSIZE_ADDRH_n q ∉ pitRegs ∧
    DPMAIF_ULQSAR_n q ∉ pitRegs ∧
    DPMAIF_UL_DRB_ADDRH_n q ∉ pitRegs := by decide

/-- The registers of the normal table: after it is loaded only its enable bit is changed. -/
theorem batTable_edits (mask : IsrEnMask) (old : HwBank) :
    let edit := fun reg => (editOf reg (beforePit (queueInfo para s mask))).andThen
      (editOf reg (afterPit (queueInfo para s mask)))
    (edit DPMAIF_DL_BAT_INIT_CON0).apply (old DPMAIF_DL_BAT_INIT_CON0) = lower32Bits (para.pktBatBaseAddr rxq0) ∧
      (edit DPMAIF_DL_BAT_INIT_CON3).apply (old DPMAIF_DL_BAT_INIT_CON3) =
        upper32Bits (para.pktBatBaseAddr rxq0) ∧
      ∃ value, (edit DPMAIF_DL_BAT_INIT_CON1).apply (old DPMAIF_DL_BAT_INIT_CON1) =
        (enableBits DPMAIF_BAT_EN_MSK true).apply ((enableBits DPMAIF_BAT_EN_MSK false).apply
          ((assign DPMAIF_BAT_SIZE_MSK (para.pktBatSizeCnt rxq0 &&& DPMAIF_BAT_SIZE_MSK)).apply value)) := by
  let keepAll : Edit 32 := ⟨BitVec.allOnes 32, 0⟩
  have low : editOf DPMAIF_DL_BAT_INIT_CON0 (beforePit (queueInfo para s mask)) =
      (keepAll.andThen (put (lower32Bits (para.frgBatBaseAddr rxq0)))).andThen
        (put (lower32Bits (para.pktBatBaseAddr rxq0))) := rfl
  have high : editOf DPMAIF_DL_BAT_INIT_CON3 (beforePit (queueInfo para s mask)) =
      (keepAll.andThen (put (upper32Bits (para.frgBatBaseAddr rxq0)))).andThen
        (put (upper32Bits (para.pktBatBaseAddr rxq0))) := rfl
  have con1 : editOf DPMAIF_DL_BAT_INIT_CON1 (beforePit (queueInfo para s mask)) =
      ((((keepAll.andThen (orIn DPMAIF_DL_BAT_CACHE_PRI)).andThen
        (assign DPMAIF_BAT_SIZE_MSK (para.frgBatSizeCnt rxq0 &&& DPMAIF_BAT_SIZE_MSK))).andThen
        (enableBits DPMAIF_BAT_EN_MSK true)).andThen
        (assign DPMAIF_BAT_SIZE_MSK (para.pktBatSizeCnt rxq0 &&& DPMAIF_BAT_SIZE_MSK))).andThen
        (enableBits DPMAIF_BAT_EN_MSK false) := rfl
  have lowAfter : editOf DPMAIF_DL_BAT_INIT_CON0 (afterPit (queueInfo para s mask)) = keepAll := rfl
  have highAfter : editOf DPMAIF_DL_BAT_INIT_CON3 (afterPit (queueInfo para s mask)) = keepAll := rfl
  have con1After : editOf DPMAIF_DL_BAT_INIT_CON1 (afterPit (queueInfo para s mask)) =
      keepAll.andThen (enableBits DPMAIF_BAT_EN_MSK true) := rfl
  dsimp only
  refine ⟨?_, ?_, ?_⟩
  · rw [low, lowAfter, andThen_keepAll, andThen_apply, put_apply]
  · rw [high, highAfter, andThen_keepAll, andThen_apply, put_apply]
  · rw [con1, con1After, keepAll_andThen (enableBits DPMAIF_BAT_EN_MSK true), andThen_apply, andThen_apply,
      andThen_apply]
    exact ⟨_, rfl⟩

theorem hwInit_programs (done : hwInitPolls polled = true) :
    Programmed para (hwInit polled device para s).1.bus.regs := by
  obtain ⟨mask, regs⟩ := hwInit_regs polled device para s done
  refine ⟨?_, ?_, ?_, ?_, ?_, ?_⟩
  · intro q
    obtain ⟨low, high, _⟩ := configUlqHw_edits para s mask q
    obtain ⟨_, inLow, inHigh, _, outLow, outHigh⟩ := ring_inside q
    obtain ⟨_, lowLast⟩ := configUlqHw_last (queueInfo para s mask) inLow
      ((clearedBus polled device s).regs (DPMAIF_ULQSAR_n q))
    obtain ⟨_, highLast⟩ := configUlqHw_last (queueInfo para s mask) inHigh
      ((clearedBus polled device s).regs (DPMAIF_UL_DRB_ADDRH_n q))
    rw [regs _ outLow, regs _ outHigh, lowLast, highLast, low, high, andThen_apply, andThen_apply, put_apply,
      put_apply, upper_append_lower]
  · intro q
    obtain ⟨_, _, size⟩ := configUlqHw_edits para s mask q
    obtain ⟨inSize, _, _, outSize, _⟩ := ring_inside q
    obtain ⟨_, sizeLast⟩ := configUlqHw_last (queueInfo para s mask) inSize
      ((clearedBus polled device s).regs (DPMAIF_UL_DRBSIZE_ADDRH_n q))
    rw [regs _ outSize, sizeLast, size, andThen_apply, assign_reads]
  · intro q
    obtain ⟨value, last⟩ :=
      @configUlqHw_last (queueInfo para s mask) DPMAIF_AO_UL_CHNL_ARB0 (by decide)
      ((clearedBus polled device s).regs DPMAIF_AO_UL_CHNL_ARB0)
    have bit : ∀ q : TxqIndex, (0x1f1f : BitVec 32).getLsbD q.val = true := by decide
    rw [regs _ (by decide), last, editOf_arb, arbProgram_edit, orIn_apply, BitVec.getLsbD_or, bit q, Bool.or_true]
  · obtain ⟨low, high, _⟩ := batTable_edits para s mask (clearedBus polled device s).regs
    unfold HwBank.batBase
    rw [regs _ (by decide), regs _ (by decide), low, high, upper_append_lower]
  · obtain ⟨_, _, value, con1⟩ := batTable_edits para s mask (clearedBus polled device s).regs
    unfold HwBank.batSize
    rw [regs _ (by decide), con1, enableBits_keeps (by decide), enableBits_keeps (by decide), assign_reads]
  · intro setting member
    obtain ⟨outside, written, value⟩ := settings_written setting member
    rw [regs _ fun inside => outside (List.mem_append_left _ (List.mem_append_left _ inside)),
      editOf_settings outside, apply_reads written, value]

/-- The DL table and all UL queues are switched on. -/
theorem hwInit_enables (done : hwInitPolls polled = true) :
    HwBank.batEn (hwInit polled device para s).1.bus.regs = true ∧
      ∀ q : TxqIndex,
        ((hwInit polled device para s).1.bus.regs DPMAIF_AO_UL_CHNL_ARB0).getLsbD (q.val + 8) = true := by
  obtain ⟨mask, regs⟩ := hwInit_regs polled device para s done
  constructor
  · obtain ⟨_, _, value, con1⟩ := batTable_edits para s mask (clearedBus polled device s).regs
    unfold HwBank.batEn
    rw [regs _ (by decide), con1]
    exact enableBits_bit (by decide) true _
  · intro q
    obtain ⟨value, last⟩ :=
      @configUlqHw_last (queueInfo para s mask) DPMAIF_AO_UL_CHNL_ARB0 (by decide)
      ((clearedBus polled device s).regs DPMAIF_AO_UL_CHNL_ARB0)
    have bit : ∀ q : TxqIndex, (0x1f1f : BitVec 32).getLsbD (q.val + 8) = true := by decide
    rw [regs _ (by decide), last, editOf_arb, arbProgram_edit, orIn_apply, BitVec.getLsbD_or, bit q, Bool.or_true]

end Settings

end T7xxModel.Dpmaif
