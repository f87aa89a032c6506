import T7xx.Dpmaif.IntrCount
import T7xx.Dpmaif.PitBooks
import T7xx.Dpmaif.StopFlags
import T7xx.Dpmaif.TxRun
import T7xx.Kernel.Unwind
import T7xx.Register.Bank

namespace T7xxModel.Dpmaif

open Register Kernel

def DPMAIF_PD_BASE : Nat := 0x1022d000
def BASE_DPMAIF_UL : Nat := DPMAIF_PD_BASE
def BASE_DPMAIF_DL : Nat := DPMAIF_PD_BASE + 0x100
def BASE_DPMAIF_AP_MISC : Nat := DPMAIF_PD_BASE + 0x400
def BASE_DPMAIF_MMW_HPC : Nat := DPMAIF_PD_BASE + 0x600
def BASE_DPMAIF_DL_DLQ_REMOVEAO_IDX : Nat := DPMAIF_PD_BASE + 0x900
def BASE_DPMAIF_PD_SRAM_DL : Nat := DPMAIF_PD_BASE + 0xc00
def BASE_DPMAIF_PD_SRAM_UL : Nat := DPMAIF_PD_BASE + 0xd00
def DPMAIF_AO_BASE : Nat := 0x10014000
def BASE_DPMAIF_AO_UL : Nat := DPMAIF_AO_BASE
def BASE_DPMAIF_AO_DL : Nat := DPMAIF_AO_BASE + 0x400

def DPMAIF_UL_ADD_DESC_CH0 : Nat := BASE_DPMAIF_UL + 0xb0
def DPMAIF_UL_RESERVE_AO_RW : Nat := BASE_DPMAIF_UL + 0xac
def DPMAIF_DL_BAT_INIT : Nat := BASE_DPMAIF_DL + 0x00
def DPMAIF_DL_BAT_ADD : Nat := BASE_DPMAIF_DL + 0x04
def DPMAIF_DL_BAT_INIT_CON0 : Nat := BASE_DPMAIF_DL + 0x08
def DPMAIF_DL_BAT_INIT_CON1 : Nat := BASE_DPMAIF_DL + 0x0c
def DPMAIF_DL_BAT_INIT_CON3 : Nat := BASE_DPMAIF_DL + 0x50
def DPMAIF_AP_L2TISAR0 : Nat := BASE_DPMAIF_AP_MISC + 0x00
def DPMAIF_AP_APDL_L2TISAR0 : Nat := BASE_DPMAIF_AP_MISC + 0x50
def DPMAIF_AP_IP_BUSY : Nat := BASE_DPMAIF_AP_MISC + 0x60
def DPMAIF_AP_CG_EN : Nat := BASE_DPMAIF_AP_MISC + 0x68
def DPMAIF_AP_OVERWRITE_CFG : Nat := BASE_DPMAIF_AP_MISC + 0x90
def DPMAIF_AP_MEM_CLR : Nat := BASE_DPMAIF_AP_MISC + 0x94
def DPMAIF_AO_UL_INIT_SET : Nat := BASE_DPMAIF_AO_UL + 0x0
def DPMAIF_AO_UL_CHNL_ARB0 : Nat := BASE_DPMAIF_AO_UL + 0x1c
def DPMAIF_AO_UL_AP_L2TIMCR0 : Nat := BASE_DPMAIF_AO_UL + 0x84
def DPMAIF_AO_UL_AP_L2TIMSR0 : Nat := BASE_DPMAIF_AO_UL + 0x88
def DPMAIF_AO_UL_AP_L1TIMR0 : Nat := BASE_DPMAIF_AO_UL + 0x8c
def DPMAIF_AO_UL_APDL_L2TIMCR0 : Nat := BASE_DPMAIF_AO_UL + 0x94
def DPMAIF_AO_UL_APDL_L2TIMSR0 : Nat := BASE_DPMAIF_AO_UL + 0x98
def DPMAIF_AO_AP_DLUL_IP_BUSY_MASK : Nat := BASE_DPMAIF_AO_UL + 0x9c
def DPMAIF_AO_UL_CHNL0_CON0 : Nat := BASE_DPMAIF_PD_SRAM_UL + 0x10
def DPMAIF_AO_UL_CHNL0_CON1 : Nat := BASE_DPMAIF_PD_SRAM_UL + 0x14
def DPMAIF_AO_UL_CHNL0_CON2 : Nat := BASE_DPMAIF_PD_SRAM_UL + 0x18
def DPMAIF_AO_DL_INIT_SET : Nat := BASE_DPMAIF_AO_DL + 0x00
def DPMAIF_AO_DL_DLQPIT_INIT_CON5 : Nat := BASE_DPMAIF_AO_DL + 0x28
def DPMAIF_AO_DL_DLQPIT_TRIG_THRES : Nat := BASE_DPMAIF_AO_DL + 0x34
def DPMAIF_AO_DL_PKTINFO_CON0 : Nat := BASE_DPMAIF_PD_SRAM_DL + 0x00
def DPMAIF_AO_DL_PKTINFO_CON1 : Nat := BASE_DPMAIF_PD_SRAM_DL + 0x04
def DPMAIF_AO_DL_PKTINFO_CON2 : Nat := BASE_DPMAIF_PD_SRAM_DL + 0x08
def DPMAIF_AO_DL_RDY_CHK_THRES : Nat := BASE_DPMAIF_PD_SRAM_DL + 0x0c
def DPMAIF_AO_DL_RDY_CHK_FRG_THRES : Nat := BASE_DPMAIF_PD_SRAM_DL + 0x10
def DPMAIF_AO_DL_DLQ_AGG_CFG : Nat := BASE_DPMAIF_PD_SRAM_DL + 0x20
def DPMAIF_AO_DL_DLQPIT_TIMEOUT0 : Nat := BASE_DPMAIF_PD_SRAM_DL + 0x24
def DPMAIF_AO_DL_DLQPIT_TIMEOUT1 : Nat := BASE_DPMAIF_PD_SRAM_DL + 0x28
def DPMAIF_AO_DL_HPC_CNTL : Nat := BASE_DPMAIF_PD_SRAM_DL + 0x38
def DPMAIF_AO_DL_PIT_SEQ_END : Nat := BASE_DPMAIF_PD_SRAM_DL + 0x40
def DPMAIF_HPC_INTR_MASK : Nat := BASE_DPMAIF_MMW_HPC + 0x0f4
def DPMAIF_DL_DLQPIT_INIT : Nat := BASE_DPMAIF_DL_DLQ_REMOVEAO_IDX + 0x00
def DPMAIF_DL_DLQPIT_ADD : Nat := BASE_DPMAIF_DL_DLQ_REMOVEAO_IDX + 0x10
def DPMAIF_DL_DLQPIT_INIT_CON0 : Nat := BASE_DPMAIF_DL_DLQ_REMOVEAO_IDX + 0x14
def DPMAIF_DL_DLQPIT_INIT_CON1 : Nat := BASE_DPMAIF_DL_DLQ_REMOVEAO_IDX + 0x18
def DPMAIF_DL_DLQPIT_INIT_CON2 : Nat := BASE_DPMAIF_DL_DLQ_REMOVEAO_IDX + 0x1c
def DPMAIF_DL_DLQPIT_INIT_CON3 : Nat := BASE_DPMAIF_DL_DLQ_REMOVEAO_IDX + 0x20
def DPMAIF_DL_DLQPIT_INIT_CON4 : Nat := BASE_DPMAIF_DL_DLQ_REMOVEAO_IDX + 0x24
def DPMAIF_DL_DLQPIT_INIT_CON5 : Nat := BASE_DPMAIF_DL_DLQ_REMOVEAO_IDX + 0x28
def DPMAIF_DL_DLQPIT_INIT_CON6 : Nat := BASE_DPMAIF_DL_DLQ_REMOVEAO_IDX + 0x2c
def DPMAIF_AP_RGU_ASSERT : Nat := 0x10001150
def DPMAIF_AP_RGU_DEASSERT : Nat := 0x10001154
def DPMAIF_AP_AO_RGU_ASSERT : Nat := 0x10001140
def DPMAIF_AP_AO_RGU_DEASSERT : Nat := 0x10001144

def DPMAIF_ULQSAR_n (q : TxqIndex) : Nat := DPMAIF_AO_UL_CHNL0_CON0 + 0x10 * q.val
def DPMAIF_UL_DRBSIZE_ADDRH_n (q : TxqIndex) : Nat := DPMAIF_AO_UL_CHNL0_CON1 + 0x10 * q.val
def DPMAIF_UL_DRB_ADDRH_n (q : TxqIndex) : Nat := DPMAIF_AO_UL_CHNL0_CON2 + 0x10 * q.val
def DPMAIF_ULQ_ADD_DESC_CH_n (q : TxqIndex) : Nat := DPMAIF_UL_ADD_DESC_CH0 + 0x04 * q.val

def DPMAIF_AP_ALL_L2TISAR0_MASK : BitVec 32 := genmask 31 0
def DPMAIF_AP_APDL_ALL_L2TISAR0_MASK : BitVec 32 := genmask 31 0
def DPMAIF_AP_IP_BUSY_MASK : BitVec 32 := genmask 31 0
def DPMA_HPC_ALL_INT_MASK : BitVec 32 := genmask 15 0
def DPMAIF_AP_RST_BIT : BitVec 32 := .twoPow 32 2
def DPMAIF_AP_AO_RST_BIT : BitVec 32 := .twoPow 32 6
def DPMAIF_UL_ALL_QUE_ARB_EN : BitVec 32 := genmask 11 8
def DPMAIF_UL_ADD_UPDATE : BitVec 32 := .twoPow 32 31
def DPMAIF_UL_ADD_COUNT_MASK : BitVec 32 := genmask 15 0
def DPMAIF_DL_ADD_UPDATE : BitVec 32 := .twoPow 32 31
def DPMAIF_DL_FRG_ADD_UPDATE : BitVec 32 := .twoPow 32 16
def DPMAIF_DL_ADD_COUNT_MASK : BitVec 32 := genmask 15 0
def DPMAIF_ADD_DLQ_PIT_CHAN_OFS : Nat := 20
def DPMAIF_DL_BAT_INIT_ALLSET : BitVec 32 := .twoPow 32 0
def DPMAIF_DL_BAT_FRG_INIT : BitVec 32 := .twoPow 32 16
def DPMAIF_DL_BAT_INIT_EN : BitVec 32 := .twoPow 32 31
def DPMAIF_DL_BAT_INIT_ONLY_ENABLE_BIT : BitVec 32 := 0
def DPMAIF_DL_PIT_INIT_ALLSET : BitVec 32 := .twoPow 32 0
def DPMAIF_DL_PIT_INIT_EN : BitVec 32 := .twoPow 32 31
def DPMAIF_PIT_SIZE_MSK : BitVec 32 := genmask 17 0
def DPMAIF_BAT_EN_MSK : BitVec 32 := .twoPow 32 16
def DPMAIF_FRG_EN_MSK : BitVec 32 := .twoPow 32 28
def DPMAIF_BAT_SIZE_MSK : BitVec 32 := genmask 15 0
def DPMAIF_BAT_BID_MAXCNT_MSK : BitVec 32 := genmask 31 16
def DPMAIF_BAT_REMAIN_MINSZ_MSK : BitVec 32 := genmask 15 8
def DPMAIF_PIT_CHK_NUM_MSK : BitVec 32 := genmask 31 24
def DPMAIF_BAT_BUF_SZ_MSK : BitVec 32 := genmask 16 8
def DPMAIF_FRG_BUF_SZ_MSK : BitVec 32 := genmask 16 8
def DPMAIF_BAT_RSV_LEN_MSK : BitVec 32 := genmask 7 0
def DPMAIF_PKT_ALIGN_MSK : BitVec 32 := genmask 23 22
def DPMAIF_BAT_CHECK_THRES_MSK : BitVec 32 := genmask 21 16
def DPMAIF_FRG_CHECK_THRES_MSK : BitVec 32 := genmask 7 0
def DPMAIF_PKT_ALIGN_EN : BitVec 32 := .twoPow 32 23
def DPMAIF_DRB_SIZE_MSK : BitVec 32 := genmask 15 0
def DPMAIF_DL_PKT_CHECKSUM_EN : BitVec 32 := .twoPow 32 31
def DPMAIF_PORT_MODE_PCIE : BitVec 32 := .twoPow 32 30
def DPMAIF_DL_BURST_PIT_EN : BitVec 32 := .twoPow 32 13
def DPMAIF_DL_BAT_CACHE_PRI : BitVec 32 := .twoPow 32 22
def DPMAIF_MEM_CLR : BitVec 32 := .twoPow 32 0
def DPMAIF_SRAM_SYNC : BitVec 32 := .twoPow 32 0
def DPMAIF_UL_INIT_DONE : BitVec 32 := .twoPow 32 0
def DPMAIF_DL_INIT_DONE : BitVec 32 := .twoPow 32 0
def DPMAIF_DL_PIT_SEQ_MSK : BitVec 32 := genmask 7 0
def DPMAIF_PCIE_MODE_SET_VALUE : BitVec 32 := 0x55
def DPMAIF_CG_EN : BitVec 32 := 0x7f
def DPMAIF_UDL_IP_BUSY : BitVec 32 := .twoPow 32 0
def DPMAIF_DL_INT_Q2TOQ1 : BitVec 32 := .twoPow 32 24
def DPMAIF_DL_INT_Q2APTOP : BitVec 32 := .twoPow 32 25
def DPMAIF_DLQ_LOW_TIMEOUT_THRES_MKS : BitVec 32 := genmask 15 0
def DPMAIF_DLQ_HIGH_TIMEOUT_THRES_MSK : BitVec 32 := genmask 31 16
def DPMAIF_DLQPIT_EN_MSK : BitVec 32 := .twoPow 32 20
def DPMAIF_DLQPIT_CHAN_OFS : Nat := 16
def DP_UL_INT_ERR_MSK : BitVec 32 := genmask 24 20

def DPMAIF_HPC_DLQ_PATH_MODE : BitVec 32 := 3
def DPMAIF_HPC_ADD_MODE_DF : BitVec 32 := 0
def DPMAIF_HPC_TOTAL_NUM : BitVec 32 := 8
def DPMAIF_HPC_MAX_TOTAL_NUM : Nat := 8
def DPMAIF_AGG_MAX_LEN_DF : BitVec 32 := 65535
def DPMAIF_AGG_TBL_ENT_NUM_DF : BitVec 32 := 50
def DPMAIF_HASH_PRIME_DF : BitVec 32 := 13
def DPMAIF_MID_TIMEOUT_THRES_DF : BitVec 32 := 100
def DPMAIF_DLQ_TIMEOUT_THRES_DF : BitVec 32 := 100
def DPMAIF_DLQ_PRS_THRES_DF : BitVec 32 := 10
def DPMAIF_DLQ_HASH_BIT_CHOOSE_DF : BitVec 32 := 0
def DPMAIF_BAT_REMAIN_SZ_BASE : BitVec 32 := 16
def DPMAIF_BAT_BUFFER_SZ_BASE : BitVec 32 := 128
def DPMAIF_FRG_BUFFER_SZ_BASE : BitVec 32 := 128
def DPMAIF_HW_BAT_REMAIN : BitVec 32 := 64
def DPMAIF_HW_BAT_PKTBUF : BitVec 32 := 128 * 28
def DPMAIF_HW_FRG_PKTBUF : BitVec 32 := 128
def DPMAIF_HW_BAT_RSVLEN : BitVec 32 := 64
def DPMAIF_HW_PKT_BIDCNT : BitVec 32 := 1
def DPMAIF_HW_MTU_SIZE : BitVec 32 := 3 * 1024 + 8
def DPMAIF_HW_CHK_BAT_NUM : BitVec 32 := 62
def DPMAIF_HW_CHK_FRG_NUM : BitVec 32 := 3
def DPMAIF_HW_CHK_PIT_NUM : BitVec 32 := 2 * DPMAIF_HW_CHK_BAT_NUM

/-- `struct dpmaif_hw_params` -/
structure HwParams where
  drbBaseAddr : TxqIndex → BitVec 64
  drbSizeCnt : TxqIndex → BitVec 32
  pktBatBaseAddr : RxqIndex → BitVec 64
  pktBatSizeCnt : RxqIndex → BitVec 32
  frgBatBaseAddr : RxqIndex → BitVec 64
  frgBatSizeCnt : RxqIndex → BitVec 32
  pitBaseAddr : RxqIndex → BitVec 64
  pitSizeCnt : RxqIndex → BitVec 32

structure DpmaifDl where
  queStarted : Bool
  pitBase : BitVec 64
  pitSizeCnt : BitVec 32
  batBase : BitVec 64
  batSizeCnt : BitVec 32
  frgBase : BitVec 64
  frgSizeCnt : BitVec 32

structure DpmaifUl where
  queStarted : Bool
  drbBase : BitVec 64
  drbSizeCnt : BitVec 32

/-- `struct dpmaif_isr_en_mask` -/
structure IsrEnMask where
  apUlL2intrEnMsk : BitVec 32
  apDlL2intrEnMsk : BitVec 32
  apUdlIpBusyEnMsk : BitVec 32
  apDlL2intrErrEnMsk : BitVec 32

structure HwInfo where
  dlQue : RxqIndex → DpmaifDl
  ulQue : TxqIndex → DpmaifUl
  isrEnMask : IsrEnMask

/-- The polls of `t7xx_dpmaif_hw_init` that decide how it goes on. -/
inductive HwPoll where
  | memClr
  | ulMask
  | dlMask
  | batReady (frgEn : Bool)
  | batDone (frgEn : Bool)
  | pitReady (q : RxqIndex)
  | sramSync
deriving DecidableEq, Repr

abbrev HwBank := Bank Nat 32
abbrev HwBus := Bus Nat 32
abbrev HwAccess := Access Nat 32

/-- What a reset and the clearing of its memory leave in the registers. -/
structure HwDevice where
  reset : HwBank → HwBank
  memClr : HwBank → HwBank

/-- The two registers whose writes make the hardware load a table. -/
def loadsTable (reg : Nat) : Bool := reg = DPMAIF_DL_BAT_INIT || reg = DPMAIF_DL_DLQPIT_INIT

def HwBus.run (bus : HwBus) (program : List HwAccess) : HwBus := Bus.run loadsTable bus program

def lower32Bits (n : BitVec 64) : BitVec 32 := n.extractLsb' 0 32
def upper32Bits (n : BitVec 64) : BitVec 32 := n.extractLsb' 32 32

def polledRet (ready : Bool) : Int := if ready then 0 else -ETIMEDOUT

section Config

def sramInit (polled : HwPoll → Bool) (device : HwDevice) (bus : HwBus) : HwBus × Int :=
  let bus := bus.run [⟨DPMAIF_AP_MEM_CLR, orIn DPMAIF_MEM_CLR⟩]
  ({ bus with regs := device.memClr bus.regs }, polledRet (polled .memClr))

def hwReset (device : HwDevice) (bus : HwBus) : HwBus :=
  let bus := bus.run
    [write DPMAIF_AP_AO_RGU_ASSERT DPMAIF_AP_AO_RST_BIT,
     write DPMAIF_AP_RGU_ASSERT DPMAIF_AP_RST_BIT,
     write DPMAIF_AP_AO_RGU_DEASSERT DPMAIF_AP_AO_RST_BIT,
     write DPMAIF_AP_RGU_DEASSERT DPMAIF_AP_RST_BIT]
  { bus with regs := device.reset bus.regs }

def portModeClock : List HwAccess :=
  [⟨DPMAIF_AO_DL_RDY_CHK_THRES, orIn DPMAIF_PORT_MODE_PCIE⟩, write DPMAIF_AP_CG_EN DPMAIF_CG_EN]

def hwConfig (polled : HwPoll → Bool) (device : HwDevice) (bus : HwBus) : HwBus × Int :=
  onSuccess (sramInit polled device (hwReset device bus)) fun bus => (bus.run portModeClock, 0)

def ulIntrEnable : BitVec 32 := DP_UL_INT_ERR_MSK ||| DP_UL_INT_QDONE_MSK
def dlIntrEnable : BitVec 32 := DP_DL_INT_PITCNT_LEN_ERR ||| DP_DL_INT_BATCNT_LEN_ERR

def dlqIntrEnable : BitVec 32 :=
  DPMAIF_DL_INT_DLQ0_QDONE ||| DPMAIF_DL_INT_DLQ0_PITCNT_LEN ||| DPMAIF_DL_INT_DLQ1_QDONE |||
    DPMAIF_DL_INT_DLQ1_PITCNT_LEN

structure HwState where
  info : HwInfo
  bus : HwBus

def HwState.setMask (s : HwState) (isrEnMask : IsrEnMask) : HwState :=
  { s with info := { s.info with isrEnMask } }

def HwState.run (s : HwState) (program : List HwAccess) : HwState := { s with bus := s.bus.run program }

/-- The DL interrupts are stored over those of UL in `ap_ul_l2intr_en_msk`. -/
def initIntr (polled : HwPoll → Bool) (s : HwState) : HwState × Int :=
  let mask := { s.info.isrEnMask with apUlL2intrEnMsk := ulIntrEnable }
  let s := (s.setMask mask).run
    [write DPMAIF_AP_L2TISAR0 DPMAIF_AP_ALL_L2TISAR0_MASK,
     write DPMAIF_AO_UL_AP_L2TIMCR0 ulIntrEnable,
     write DPMAIF_AO_UL_AP_L2TIMSR0 (~~~ulIntrEnable)]
  if polled .ulMask = false then (s, -ETIMEDOUT)
  else
    let mask := { mask with apDlL2intrErrEnMsk := dlIntrEnable, apUlL2intrEnMsk := dlqIntrEnable }
    let s := (s.setMask mask).run
      [write DPMAIF_AP_APDL_L2TISAR0 DPMAIF_AP_APDL_ALL_L2TISAR0_MASK,
       write DPMAIF_AO_UL_APDL_L2TIMSR0 (~~~dlqIntrEnable)]
    if polled .dlMask = false then (s, -ETIMEDOUT)
    else
      let mask := { mask with apUdlIpBusyEnMsk := DPMAIF_UDL_IP_BUSY }
      ((s.setMask mask).run
        [write DPMAIF_AP_IP_BUSY DPMAIF_AP_IP_BUSY_MASK,
         write DPMAIF_AO_AP_DLUL_IP_BUSY_MASK mask.apUdlIpBusyEnMsk,
         ⟨DPMAIF_AO_UL_AP_L1TIMR0, orIn (DPMAIF_DL_INT_Q2APTOP ||| DPMAIF_DL_INT_Q2TOQ1)⟩,
         write DPMAIF_HPC_INTR_MASK DPMA_HPC_ALL_INT_MASK], 0)

def pcieDpmaifSign : List HwAccess := [write DPMAIF_UL_RESERVE_AO_RW DPMAIF_PCIE_MODE_SET_VALUE]

def dlPerformance : List HwAccess :=
  [⟨DPMAIF_DL_BAT_INIT_CON1, orIn DPMAIF_DL_BAT_CACHE_PRI⟩,
   ⟨DPMAIF_AO_DL_RDY_CHK_THRES, orIn DPMAIF_DL_BURST_PIT_EN⟩]

def setQueueProperty (initPara : HwParams) (info : HwInfo) : HwInfo :=
  { info with
    dlQue := fun i =>
      { queStarted := true
        batBase := initPara.pktBatBaseAddr i
        batSizeCnt := initPara.pktBatSizeCnt i
        pitBase := initPara.pitBaseAddr i
        pitSizeCnt := initPara.pitSizeCnt i
        frgBase := initPara.frgBatBaseAddr i
        frgSizeCnt := initPara.frgBatSizeCnt i }
    ulQue := fun i =>
      { queStarted := true, drbBase := initPara.drbBaseAddr i, drbSizeCnt := initPara.drbSizeCnt i } }

end Config

section Downlink

def hwHpcCntlSet : List HwAccess :=
  [write DPMAIF_AO_DL_HPC_CNTL
    (DPMAIF_HPC_DLQ_PATH_MODE ||| DPMAIF_HPC_ADD_MODE_DF <<< 2 ||| DPMAIF_HASH_PRIME_DF <<< 4 |||
      DPMAIF_HPC_TOTAL_NUM <<< 8)]

def hwAggCfgSet : List HwAccess :=
  [write DPMAIF_AO_DL_DLQ_AGG_CFG (DPMAIF_AGG_MAX_LEN_DF ||| DPMAIF_AGG_TBL_ENT_NUM_DF <<< 16)]

def hwHashBitChooseSet : List HwAccess :=
  [write DPMAIF_AO_DL_DLQPIT_INIT_CON5 DPMAIF_DLQ_HASH_BIT_CHOOSE_DF]

def hwMidPitTimeoutThresSet : List HwAccess :=
  [write DPMAIF_AO_DL_DLQPIT_TIMEOUT0 DPMAIF_MID_TIMEOUT_THRES_DF]

/-- Each register holds two thresholds. -/
def hwDlqTimeoutThresSet : List HwAccess :=
  (List.range (DPMAIF_HPC_MAX_TOTAL_NUM / 2)).map fun i =>
    write (DPMAIF_AO_DL_DLQPIT_TIMEOUT1 + 4 * i)
      (fieldPrep DPMAIF_DLQ_LOW_TIMEOUT_THRES_MKS DPMAIF_DLQ_TIMEOUT_THRES_DF |||
        fieldPrep DPMAIF_DLQ_HIGH_TIMEOUT_THRES_MSK DPMAIF_DLQ_TIMEOUT_THRES_DF)

def hwDlqStartPrsThresSet : List HwAccess :=
  [write DPMAIF_AO_DL_DLQPIT_TRIG_THRES DPMAIF_DLQ_PRS_THRES_DF]

def dlDlqHpcHwInit : List HwAccess :=
  hwHpcCntlSet ++ hwAggCfgSet ++ hwHashBitChooseSet ++ hwMidPitTimeoutThresSet ++
    hwDlqTimeoutThresSet ++ hwDlqStartPrsThresSet

def dlBatInitDone (polled : HwPoll → Bool) (frgEn : Bool) (bus : HwBus) : HwBus × Int :=
  let dlBatInit :=
    (if frgEn then DPMAIF_DL_BAT_FRG_INIT else 0) ||| DPMAIF_DL_BAT_INIT_ALLSET ||| DPMAIF_DL_BAT_INIT_EN
  if polled (.batReady frgEn) = false then (bus, -ETIMEDOUT)
  else (bus.run [write DPMAIF_DL_BAT_INIT dlBatInit], polledRet (polled (.batDone frgEn)))

def dlSetBatBaseAddr (addr : BitVec 64) : List HwAccess :=
  [write DPMAIF_DL_BAT_INIT_CON0 (lower32Bits addr), write DPMAIF_DL_BAT_INIT_CON3 (upper32Bits addr)]

def dlSetBatSize (size : BitVec 32) : List HwAccess :=
  [⟨DPMAIF_DL_BAT_INIT_CON1, assign DPMAIF_BAT_SIZE_MSK (size &&& DPMAIF_BAT_SIZE_MSK)⟩]

def enableBits (mask : BitVec 32) (enable : Bool) : Edit 32 := if enable then orIn mask else andNot mask

def dlBatEn (enable : Bool) : List HwAccess :=
  [⟨DPMAIF_DL_BAT_INIT_CON1, enableBits DPMAIF_BAT_EN_MSK enable⟩]

def dlSetAoBidMaxcnt : List HwAccess :=
  [⟨DPMAIF_AO_DL_PKTINFO_CON0,
    assign DPMAIF_BAT_BID_MAXCNT_MSK (fieldPrep DPMAIF_BAT_BID_MAXCNT_MSK DPMAIF_HW_PKT_BIDCNT)⟩]

def dlSetAoMtu : List HwAccess := [write DPMAIF_AO_DL_PKTINFO_CON1 DPMAIF_HW_MTU_SIZE]

def dlSetAoPitChknum : List HwAccess :=
  [⟨DPMAIF_AO_DL_PKTINFO_CON2,
    assign DPMAIF_PIT_CHK_NUM_MSK (fieldPrep DPMAIF_PIT_CHK_NUM_MSK DPMAIF_HW_CHK_PIT_NUM)⟩]

def dlSetAoRemainMinsz : List HwAccess :=
  [⟨DPMAIF_AO_DL_PKTINFO_CON0,
    assign DPMAIF_BAT_REMAIN_MINSZ_MSK
      (fieldPrep DPMAIF_BAT_REMAIN_MINSZ_MSK (DPMAIF_HW_BAT_REMAIN / DPMAIF_BAT_REMAIN_SZ_BASE))⟩]

def dlSetAoBatBufsz : List HwAccess :=
  [⟨DPMAIF_AO_DL_PKTINFO_CON2,
    assign DPMAIF_BAT_BUF_SZ_MSK
      (fieldPrep DPMAIF_BAT_BUF_SZ_MSK (DPMAIF_HW_BAT_PKTBUF / DPMAIF_BAT_BUFFER_SZ_BASE))⟩]

def dlSetAoBatRsvLength : List HwAccess :=
  [⟨DPMAIF_AO_DL_PKTINFO_CON2, assign DPMAIF_BAT_RSV_LEN_MSK DPMAIF_HW_BAT_RSVLEN⟩]

def dlSetPktAlignment : List HwAccess :=
  [⟨DPMAIF_AO_DL_RDY_CHK_THRES, assign DPMAIF_PKT_ALIGN_MSK DPMAIF_PKT_ALIGN_EN⟩]

def dlSetPktChecksum : List HwAccess :=
  [⟨DPMAIF_AO_DL_RDY_CHK_THRES, orIn DPMAIF_DL_PKT_CHECKSUM_EN⟩]

def dlSetAoFrgCheckThres : List HwAccess :=
  [⟨DPMAIF_AO_DL_RDY_CHK_FRG_THRES, assign DPMAIF_FRG_CHECK_THRES_MSK DPMAIF_HW_CHK_FRG_NUM⟩]

def dlSetAoFrgBufsz : List HwAccess :=
  [⟨DPMAIF_AO_DL_RDY_CHK_FRG_THRES,
    assign DPMAIF_FRG_BUF_SZ_MSK
      (fieldPrep DPMAIF_FRG_BUF_SZ_MSK (DPMAIF_HW_FRG_PKTBUF / DPMAIF_FRG_BUFFER_SZ_BASE))⟩]

def dlFrgAoEn (enable : Bool) : List HwAccess :=
  [⟨DPMAIF_AO_DL_RDY_CHK_FRG_THRES, enableBits DPMAIF_FRG_EN_MSK enable⟩]

def dlSetAoBatCheckThres : List HwAccess :=
  [⟨DPMAIF_AO_DL_RDY_CHK_THRES,
    assign DPMAIF_BAT_CHECK_THRES_MSK (fieldPrep DPMAIF_BAT_CHECK_THRES_MSK DPMAIF_HW_CHK_BAT_NUM)⟩]

def dlSetPitSeqnum : List HwAccess :=
  [⟨DPMAIF_AO_DL_PIT_SEQ_END,
    assign DPMAIF_DL_PIT_SEQ_MSK (BitVec.ofNat 32 DPMAIF_DL_PIT_SEQ_VALUE)⟩]

def dlSetDlqPitBaseAddr (addr : BitVec 64) : List HwAccess :=
  [write DPMAIF_DL_DLQPIT_INIT_CON0 (lower32Bits addr),
   write DPMAIF_DL_DLQPIT_INIT_CON4 (upper32Bits addr)]

def dlSetDlqPitSize (size : BitVec 32) : List HwAccess :=
  [⟨DPMAIF_DL_DLQPIT_INIT_CON1, assign DPMAIF_PIT_SIZE_MSK (size &&& DPMAIF_PIT_SIZE_MSK)⟩,
   write DPMAIF_DL_DLQPIT_INIT_CON2 0, write DPMAIF_DL_DLQPIT_INIT_CON3 0,
   write DPMAIF_DL_DLQPIT_INIT_CON5 0, write DPMAIF_DL_DLQPIT_INIT_CON6 0]

def dlDlqPitEn : List HwAccess := [⟨DPMAIF_DL_DLQPIT_INIT_CON3, orIn DPMAIF_DLQPIT_EN_MSK⟩]

/-- A timeout of either poll is only reported. -/
def dlDlqPitInitDone (polled : HwPoll → Bool) (q : RxqIndex) (bus : HwBus) : HwBus :=
  let dlPitInit :=
    DPMAIF_DL_PIT_INIT_ALLSET ||| BitVec.ofNat 32 q.val <<< DPMAIF_DLQPIT_CHAN_OFS ||| DPMAIF_DL_PIT_INIT_EN
  if polled (.pitReady q) = false then bus else bus.run [write DPMAIF_DL_DLQPIT_INIT dlPitInit]

def configDlqPitHw (polled : HwPoll → Bool) (q : RxqIndex) (dlQue : DpmaifDl) (bus : HwBus) : HwBus :=
  dlDlqPitInitDone polled q
    (bus.run (dlSetDlqPitBaseAddr dlQue.pitBase ++ dlSetDlqPitSize dlQue.pitSizeCnt ++ dlDlqPitEn))

def configAllDlqHw (polled : HwPoll → Bool) (info : HwInfo) (bus : HwBus) : HwBus :=
  (List.finRange 2).foldl (fun bus q => configDlqPitHw polled q (info.dlQue q) bus) bus

/-- Both polls are only reported when they time out. -/
def dlAllQEn (enable : Bool) : List HwAccess :=
  [⟨DPMAIF_DL_BAT_INIT_CON1, enableBits DPMAIF_BAT_EN_MSK enable⟩,
   write DPMAIF_DL_BAT_INIT (DPMAIF_DL_BAT_INIT_ONLY_ENABLE_BIT ||| DPMAIF_DL_BAT_INIT_EN)]

/-- The settings of `t7xx_dpmaif_config_dlq_hw` before its tables. -/
def dlSettings : List HwAccess :=
  dlSetAoRemainMinsz ++ dlSetAoBatBufsz ++ dlSetAoFrgBufsz ++ dlSetAoBatRsvLength ++ dlSetAoBidMaxcnt ++
    dlSetPktAlignment ++ dlSetPitSeqnum ++ dlSetAoMtu ++ dlSetAoPitChknum ++ dlSetAoBatCheckThres ++
    dlSetAoFrgCheckThres ++ dlFrgAoEn true

def configDlqHw (polled : HwPoll → Bool) (info : HwInfo) (bus : HwBus) : HwBus × Int :=
  let bus := bus.run dlDlqHpcHwInit
  let dlQue := info.dlQue rxq0
  if dlQue.queStarted = false then (bus, -EBUSY)
  else
    let bus := (bus.run dlSettings).run
      (dlSetBatBaseAddr dlQue.frgBase ++ dlSetBatSize dlQue.frgSizeCnt ++ dlBatEn true)
    onSuccess (dlBatInitDone polled true bus) fun bus =>
      let bus := bus.run (dlSetBatBaseAddr dlQue.batBase ++ dlSetBatSize dlQue.batSizeCnt ++ dlBatEn false)
      onSuccess (dlBatInitDone polled false bus) fun bus =>
        (((configAllDlqHw polled info bus).run (dlAllQEn true)).run dlSetPktChecksum, 0)

end Downlink

section Uplink

def ulUpdateDrbSize (q : TxqIndex) (size : BitVec 32) : List HwAccess :=
  [⟨DPMAIF_UL_DRBSIZE_ADDRH_n q, assign DPMAIF_DRB_SIZE_MSK (size &&& DPMAIF_DRB_SIZE_MSK)⟩]

def ulUpdateDrbBaseAddr (q : TxqIndex) (addr : BitVec 64) : List HwAccess :=
  [write (DPMAIF_ULQSAR_n q) (lower32Bits addr), write (DPMAIF_UL_DRB_ADDRH_n q) (upper32Bits addr)]

def ulRdyEn (q : TxqIndex) (ready : Bool) : List HwAccess :=
  [⟨DPMAIF_AO_UL_CHNL_ARB0, enableBits (.twoPow 32 q.val) ready⟩]

def ulArbEn (q : TxqIndex) (enable : Bool) : List HwAccess :=
  [⟨DPMAIF_AO_UL_CHNL_ARB0, enableBits (.twoPow 32 (q.val + 8)) enable⟩]

def configUlq (q : TxqIndex) (ulQue : DpmaifUl) : List HwAccess :=
  if ulQue.queStarted then
    ulUpdateDrbSize q (ulQue.drbSizeCnt * BitVec.ofNat 32 DPMAIF_UL_DRB_SIZE_WORD) ++
      ulUpdateDrbBaseAddr q ulQue.drbBase ++ ulRdyEn q true ++ ulArbEn q true
  else ulArbEn q false

def configUlqHw (info : HwInfo) : List HwAccess :=
  (List.finRange DPMAIF_TXQ_NUM).flatMap fun q => configUlq q (info.ulQue q)

def ulAllQEn (enable : Bool) : List HwAccess :=
  [⟨DPMAIF_AO_UL_CHNL_ARB0, enableBits DPMAIF_UL_ALL_QUE_ARB_EN enable⟩]

end Uplink

def hwInitDone (polled : HwPoll → Bool) (bus : HwBus) : HwBus × Int :=
  let bus := bus.run [⟨DPMAIF_AP_OVERWRITE_CFG, orIn DPMAIF_SRAM_SYNC⟩]
  if polled .sramSync = false then (bus, -ETIMEDOUT)
  else
    (bus.run
      [write DPMAIF_AO_UL_INIT_SET DPMAIF_UL_INIT_DONE, write DPMAIF_AO_DL_INIT_SET DPMAIF_DL_INIT_DONE], 0)

def HwState.onBus (s : HwState) (f : HwBus → HwBus × Int) : HwState × Int :=
  ({ s with bus := (f s.bus).1 }, (f s.bus).2)

def hwInit (polled : HwPoll → Bool) (device : HwDevice) (initPara : HwParams) (s : HwState) :
    HwState × Int :=
  onSuccess (s.onBus (hwConfig polled device)) fun s =>
    onSuccess (initIntr polled s) fun s =>
      let s := { s with info := setQueueProperty initPara s.info }
      onSuccess ((s.run (pcieDpmaifSign ++ dlPerformance)).onBus (configDlqHw polled s.info)) fun s =>
        (s.run (configUlqHw s.info)).onBus (hwInitDone polled)

/-- Reads a status until it is not busy, at most as often as `left` says; `busy` answers the reads. -/
def waitIdle (busy : Nat → Bool) : (left : Nat) → Int
  | 0 => -ETIMEDOUT
  | left + 1 => if busy (DPMAIF_MAX_CHECK_COUNT - (left + 1)) then waitIdle busy left else 0

def hwStopAllTxq (busy : Nat → Bool) (bus : HwBus) : HwBus × Int :=
  (bus.run (ulAllQEn false), waitIdle busy DPMAIF_MAX_CHECK_COUNT)

/-- `unsynced` says whether the PIT indices differ. -/
def hwStopAllRxq (busy unsynced : Nat → Bool) (bus : HwBus) : HwBus × Int :=
  let bus := bus.run (dlAllQEn false)
  if waitIdle busy DPMAIF_MAX_CHECK_COUNT ≠ 0 then (bus, -ETIMEDOUT)
  else (bus, waitIdle unsynced DPMAIF_MAX_CHECK_COUNT)

def startHwRegs (bus : HwBus) : HwBus := bus.run (ulAllQEn true ++ dlAllQEn true)

/-- The calls that announce entries write one register each, if the hardware is ready for it. -/
def addCount (ready : Bool) (reg : Nat) (value : BitVec 32) (bus : HwBus) : HwBus :=
  if ready then bus.run [write reg value] else bus

def ulUpdateHwDrbCntRegs (ready : Bool) (q : TxqIndex) (drbEntryCnt : BitVec 32) (bus : HwBus) : HwBus :=
  addCount ready (DPMAIF_ULQ_ADD_DESC_CH_n q)
    (drbEntryCnt &&& DPMAIF_UL_ADD_COUNT_MASK ||| DPMAIF_UL_ADD_UPDATE) bus

def dlqAddPitRemainCntRegs (ready : Bool) (q : RxqIndex) (pitRemainCnt : BitVec 32) (bus : HwBus) : HwBus :=
  addCount ready DPMAIF_DL_DLQPIT_ADD
    (pitRemainCnt &&& BitVec.ofNat 32 DPMAIF_PIT_REM_CNT_MSK |||
      (DPMAIF_DL_ADD_UPDATE ||| BitVec.ofNat 32 q.val <<< DPMAIF_ADD_DLQ_PIT_CHAN_OFS)) bus

def dlSndHwBatCntRegs (ready : Bool) (batEntryCnt : BitVec 32) (bus : HwBus) : HwBus :=
  addCount ready DPMAIF_DL_BAT_ADD (batEntryCnt &&& DPMAIF_DL_ADD_COUNT_MASK ||| DPMAIF_DL_ADD_UPDATE) bus

def dlSndHwFrgCntRegs (ready : Bool) (frgEntryCnt : BitVec 32) (bus : HwBus) : HwBus :=
  addCount ready DPMAIF_DL_BAT_ADD
    (frgEntryCnt &&& DPMAIF_DL_ADD_COUNT_MASK ||| (DPMAIF_DL_FRG_ADD_UPDATE ||| DPMAIF_DL_ADD_UPDATE)) bus

/-- The four mask registers, to set and to clear the mask of an interrupt. -/
def intrMaskRegs : List Nat :=
  [DPMAIF_AO_UL_AP_L2TIMCR0, DPMAIF_AO_UL_AP_L2TIMSR0, DPMAIF_AO_UL_APDL_L2TIMCR0,
   DPMAIF_AO_UL_APDL_L2TIMSR0]

end T7xxModel.Dpmaif
