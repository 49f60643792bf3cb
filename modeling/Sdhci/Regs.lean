import Mathlib

namespace Sdhci

/-- Modelled from the spec: SDHCI 3.0 Argument 2 register offset. -/
def sdhciArg2Reg : Nat := 0x00
/-- Modelled from the spec: SDHCI 3.0 Block Size register offset. -/
def sdhciBlkszReg : Nat := 0x04
/-- Modelled from the spec: SDHCI 3.0 Block Count register offset. -/
def sdhciBlkCntReg : Nat := 0x06
/-- Modelled from the spec: SDHCI 3.0 Argument 1 register offset. -/
def sdhciArgumentReg : Nat := 0x08
/-- Modelled from the spec: SDHCI 3.0 Transfer Mode register offset. -/
def sdhciTransModeReg : Nat := 0x0C
/-- Modelled from the spec: SDHCI 3.0 Command register offset. -/
def sdhciCmdReg : Nat := 0x0E
/-- Modelled from the spec: SDHCI 3.0 Response 0 register offset (Response 1..3 follow). -/
def sdhciRespReg : Nat := 0x10
/-- Modelled from the spec: SDHCI 3.0 Present State register offset. -/
def sdhciPresentStateReg : Nat := 0x24
/-- Modelled from the spec: SDHCI 3.0 Host Control 1 register offset. -/
def sdhciHostCtrl1Reg : Nat := 0x28
/-- Modelled from the spec: SDHCI 3.0 Power Control register offset. -/
def sdhciPwrCtrlReg : Nat := 0x29
/-- Modelled from the spec: SDHCI 3.0 Clock Control register offset. -/
def sdhciClkCtrlReg : Nat := 0x2C
/-- Modelled from the spec: SDHCI 3.0 Timeout Control register offset. -/
def sdhciTimeoutReg : Nat := 0x2E
/-- Modelled from the spec: SDHCI 3.0 Software Reset register offset. -/
def sdhciResetReg : Nat := 0x2F
/-- Modelled from the spec: SDHCI 3.0 Normal Interrupt Status register offset. -/
def sdhciNrmlIntStsReg : Nat := 0x30
/-- Modelled from the spec: SDHCI 3.0 Error Interrupt Status register offset. -/
def sdhciErrIntStsReg : Nat := 0x32
/-- Modelled from the spec: SDHCI 3.0 Normal Interrupt Status Enable register offset. -/
def sdhciNrmlIntStsEnReg : Nat := 0x34
/-- Modelled from the spec: SDHCI 3.0 Error Interrupt Status Enable register offset. -/
def sdhciErrIntStsEnReg : Nat := 0x36
/-- Modelled from the spec: SDHCI 3.0 Normal Interrupt Signal Enable register offset. -/
def sdhciNrmlIntSigEnReg : Nat := 0x38
/-- Modelled from the spec: SDHCI 3.0 Error Interrupt Signal Enable register offset. -/
def sdhciErrIntSigEnReg : Nat := 0x3A
/-- Modelled from the spec: SDHCI 3.0 Host Control 2 register offset. -/
def sdhciHostCtrl2Reg : Nat := 0x3E
/-- Modelled from the spec: SDHCI 3.0 Capabilities register, low word. -/
def sdhciCapsReg1 : Nat := 0x40
/-- Modelled from the spec: SDHCI 3.0 Capabilities register, high word. -/
def sdhciCapsReg2 : Nat := 0x44
/-- Modelled from the spec: SDHCI 3.0 ADMA System Address register offset. -/
def sdhciAdmAddrReg : Nat := 0x58

/-- Modelled from the spec: Clock Control, Internal Clock Enable. -/
def sdhciIntClkEn : Nat := 0x1
/-- Modelled from the spec: Clock Control, Internal Clock Stable. -/
def sdhciClkStable : Nat := 0x2
/-- Modelled from the spec: Clock Control, SD Clock Enable. -/
def sdhciClkEn : Nat := 0x4
/-- Modelled from the spec: the value written to stop the SD clock. -/
def sdhciClkDis : Nat := 0x0
/-- Modelled from the spec: the largest divisor of the 10-bit divided clock mode. -/
def sdhciClkMaxDiv : Nat := 2046
/-- Modelled from the spec: low eight bits of the 10-bit divider. -/
def sdhciSdclkFreqMask : Nat := 0xFF
/-- Modelled from the spec: position of the low divider byte (register bits 8-15). -/
def sdhciSdclkFreqSel : Nat := 8
/-- Modelled from the spec: upper two bits of the 10-bit divider. -/
def sdhcSdclkUpBitMask : Nat := 0x300
/-- Modelled from the spec: position of the upper divider bits (register bits 6-7). -/
def sdhciSdclkUpBitSel : Nat := 6
/-- Modelled from the spec: the 100 MHz rate SDR50 runs at. -/
def sdhciClk100mhz : Nat := 100000000

/-- Modelled from the spec: Present State, Command Inhibit. -/
def sdhciCmdAct : Nat := 0x1
/-- Modelled from the spec: Present State, Data Inhibit. -/
def sdhciDatAct : Nat := 0x2
/-- Modelled from the spec: Present State, both inhibit bits. -/
def sdhciStateCmdDatMask : Nat := 0x3

/-- Modelled from the spec: Power Control, position of the voltage field. -/
def sdhciBusVolSel : Nat := 1
/-- Modelled from the spec: Power Control, SD Bus Power. -/
def sdhciBusPwrEn : Nat := 0x1
/-- Modelled from the spec: Power Control voltage code for 3.3 V. -/
def sdhciVol33 : Nat := 7
/-- Modelled from the spec: Power Control voltage code for 3.0 V. -/
def sdhciVol30 : Nat := 6
/-- Modelled from the spec: Power Control voltage code for 1.8 V. -/
def sdhciVol18 : Nat := 5

/-- Modelled from the spec: Host Control 1, 4-bit data transfer width. -/
def sdhciBusWitdh4bit : Nat := 0x02
/-- Modelled from the spec: Host Control 1, 8-bit extended data transfer width. -/
def sdhciBusWitdh8bit : Nat := 0x20
/-- Modelled from the spec: Host Control 1, 1-bit width (no width bit). -/
def sdhciBusWitdh1bit : Nat := 0x00
/-- Modelled from the spec: Host Control 1, DMA select 32-bit ADMA2. -/
def sdhciAdma32bit : Nat := 0x10
/-- Modelled from the spec: Host Control 2, UHS mode SDR50. -/
def sdhciSdr50ModeEn : Nat := 0x2
/-- Modelled from the spec: Host Control 2, UHS mode DDR50. -/
def sdhciDdrModeEn : Nat := 0x4

/-- Modelled from the spec: MMC bus width code of a 1-bit bus (mmc.h). -/
def dataBusWidth1bit : Nat := 0
/-- Modelled from the spec: MMC bus width code of a 4-bit bus (mmc.h). -/
def dataBusWidth4bit : Nat := 1
/-- Modelled from the spec: MMC bus width code of an 8-bit bus (mmc.h). -/
def dataBusWidth8bit : Nat := 2

/-- Modelled from the spec: Software Reset, reset all. -/
def sdhciSoftReset : Nat := 0x1
/-- Modelled from the spec: the reset bit the reset wait polls. -/
def sdhciSoftResetMask : Nat := 0x1
/-- Modelled from the spec: Software Reset, CMD line. -/
def softResetCmd : Nat := 0x2
/-- Modelled from the spec: Software Reset, DAT line. -/
def softResetData : Nat := 0x4

/-- Modelled from the spec: Normal Interrupt Status, Command Complete. -/
def sdhciIntStsCmdComplete : Nat := 0x1
/-- Modelled from the spec: Normal Interrupt Status, Transfer Complete. -/
def sdhciIntStsTransComplete : Nat := 0x2
/-- Modelled from the spec: Normal Interrupt Status, Error Interrupt summary bit. -/
def sdhciErrIntStatMask : Nat := 0x8000
/-- Modelled from the spec: the value enabling every normal interrupt status. -/
def sdhciNrmlIntStsEn : Nat := 0xFFFF
/-- Modelled from the spec: the value enabling every error interrupt status. -/
def sdhciErrIntStsEn : Nat := 0xFFFF
/-- Modelled from the spec: the value enabling every normal interrupt signal. -/
def sdhciNrmlIntSigEn : Nat := 0xFFFF
/-- Modelled from the spec: the value enabling every error interrupt signal. -/
def sdhciErrIntSigEn : Nat := 0xFFFF

/-- Modelled from the spec: Error Interrupt Status, Command Timeout. -/
def sdhciCmdTimeoutMask : Nat := 0x001
/-- Modelled from the spec: Error Interrupt Status, Command CRC. -/
def sdhciCmdCrcMask : Nat := 0x002
/-- Modelled from the spec: Error Interrupt Status, Command End Bit. -/
def sdhciCmdEndBitMask : Nat := 0x004
/-- Modelled from the spec: Error Interrupt Status, Command Index. -/
def sdhciCmdIdxMask : Nat := 0x008
/-- Modelled from the spec: Error Interrupt Status, Data Timeout. -/
def sdhciDatTimeoutMask : Nat := 0x010
/-- Modelled from the spec: Error Interrupt Status, Data CRC. -/
def sdhciDatCrcMask : Nat := 0x020
/-- Modelled from the spec: Error Interrupt Status, Data End Bit. -/
def sdhciDatEndBitMask : Nat := 0x040
/-- Modelled from the spec: Error Interrupt Status, Current Limit. -/
def sdhciCurLimMask : Nat := 0x080
/-- Modelled from the spec: Error Interrupt Status, Auto CMD. -/
def sdhciAutoCmd12Mask : Nat := 0x100
/-- Modelled from the spec: Error Interrupt Status, ADMA. -/
def sdhciAdmaMask : Nat := 0x200

/-- Modelled from the spec: Transfer Mode, DMA Enable. -/
def sdhciDmaEn : Nat := 0x01
/-- Modelled from the spec: Transfer Mode, Block Count Enable. -/
def sdhciBlkCntEn : Nat := 0x02
/-- Modelled from the spec: Transfer Mode, Auto CMD23 Enable. -/
def sdhciAutoCmd23En : Nat := 0x08
/-- Modelled from the spec: Transfer Mode, Data Transfer Direction read. -/
def sdhciReadMode : Nat := 0x10
/-- Modelled from the spec: Transfer Mode, Multi Block Select. -/
def sdhciTransMulti : Nat := 0x20

/-- Modelled from the spec: Command register, position of the response type field. -/
def sdhciCmdRespTypeSelBit : Nat := 0
/-- Modelled from the spec: Command register, position of Data Present. -/
def sdhciCmdDataPresentBit : Nat := 5
/-- Modelled from the spec: Command register, position of the command type field. -/
def sdhciCmdCmdTypeBit : Nat := 6
/-- Modelled from the spec: Command register response type, no response. -/
def sdhciCmdRespNone : Nat := 0
/-- Modelled from the spec: Command register response type, 136 bits. -/
def sdhciCmdResp136 : Nat := 1
/-- Modelled from the spec: Command register response type, 48 bits. -/
def sdhciCmdResp48 : Nat := 2
/-- Modelled from the spec: Command register response type, 48 bits with busy. -/
def sdhciCmdResp48Busy : Nat := 3
/-- Modelled from the spec: the Timeout Control value the driver programs. -/
def sdhciCmdTimeout : Nat := 0xE

/-- Modelled from the spec: SDHCI_PREP_CMD, the command index above the flag byte. -/
def sdhciPrepCmd (c f : Nat) : Nat := ((c &&& 0xFF) <<< 8) ||| (f &&& 0xFF)

/-- Modelled from the spec: response tag R1 of a command. -/
def sdhciCmdRespR1 : Nat := 0x01
/-- Modelled from the spec: response tag R1b of a command. -/
def sdhciCmdRespR1b : Nat := 0x02
/-- Modelled from the spec: response tag R2 of a command. -/
def sdhciCmdRespR2 : Nat := 0x04
/-- Modelled from the spec: response tag R3 of a command. -/
def sdhciCmdRespR3 : Nat := 0x08
/-- Modelled from the spec: response tag R6 of a command. -/
def sdhciCmdRespR6 : Nat := 0x40
/-- Modelled from the spec: response tag R7 of a command. -/
def sdhciCmdRespR7 : Nat := 0x80
/-- Modelled from the spec: the index of the MMC SWITCH command (CMD6). -/
def sdhciSwitchCmd : Nat := 6
/-- Modelled from the spec: shifts that move an R2 response down by one byte. -/
def sdhciRespLshift : Nat := 8
/-- Modelled from the spec: the shift that keeps the top byte of a response word. -/
def sdhciRespRshift : Nat := 24

/-- Modelled from the spec: the ADMA2 descriptor's largest span (16-bit length, 0 is 65536). -/
def sdhciAdmaDescLineSz : Nat := 65536
/-- Modelled from the spec: ADMA2 attribute Valid. -/
def sdhciAdmaTransValid : Nat := 0x01
/-- Modelled from the spec: ADMA2 attribute End. -/
def sdhciAdmaTransEnd : Nat := 0x02
/-- Modelled from the spec: ADMA2 attribute action Tran (data). -/
def sdhciAdmaTransData : Nat := 0x20
/-- Modelled from the spec: the MMC block size. -/
def sdhciMmcBlkSz : Nat := 512

/-- Modelled from the spec: Capabilities, base clock field. -/
def sdhciClkRateMask : Nat := 0x0000FF00
/-- Modelled from the spec: Capabilities, position of the base clock field. -/
def sdhciClkRateBit : Nat := 8
/-- Modelled from the spec: Capabilities, max block length field. -/
def sdhciBlkLenMask : Nat := 0x00030000
/-- Modelled from the spec: Capabilities, position of the max block length field. -/
def sdhciBlkLenBit : Nat := 16
/-- Modelled from the spec: Capabilities, 8-bit bus support. -/
def sdhci8bitWidthMask : Nat := 0x00040000
/-- Modelled from the spec: Capabilities, ADMA2 support. -/
def sdhciBlkAdmaMask : Nat := 0x00080000
/-- Modelled from the spec: Capabilities, 3.3 V support. -/
def sdhci33VolMask : Nat := 0x01000000
/-- Modelled from the spec: Capabilities, 3.0 V support. -/
def sdhci30VolMask : Nat := 0x02000000
/-- Modelled from the spec: Capabilities, 1.8 V support. -/
def sdhci18VolMask : Nat := 0x04000000
/-- Modelled from the spec: Capabilities high word, SDR50 support. -/
def sdhciSdr50ModeMask : Nat := 0x1
/-- Modelled from the spec: Capabilities high word, DDR50 support. -/
def sdhciDdrModeMask : Nat := 0x4

/-- Modelled from the spec: power control interrupt, bus on request. -/
def sdccHcBusOn : Nat := 0x1
/-- Modelled from the spec: power control interrupt, bus off request. -/
def sdccHcBusOff : Nat := 0x2
/-- Modelled from the spec: power control interrupt, IO low request. -/
def sdccHcIoSigLow : Nat := 0x4
/-- Modelled from the spec: power control interrupt, IO high request. -/
def sdccHcIoSigHigh : Nat := 0x8
/-- Modelled from the spec: power control acknowledgment of a bus on/off request. -/
def sdccHcBusOnOffSucc : Nat := 0x1
/-- Modelled from the spec: power control acknowledgment of an IO level request. -/
def sdccHcIoSigSucc : Nat := 0x4
/-- Modelled from the spec: the power control interrupts the driver unmasks. -/
def sdccHcPwrCtrlInt : Nat := 0xF
/-- Modelled from the spec: host controller mode on. -/
def sdhciHcModeEn : Nat := 0x1
/-- Modelled from the spec: host controller mode off. -/
def sdhciHcModeDis : Nat := 0x0

/-- The constants `sdhci.c` uses whose values neither the source nor the register
interface fixes: the two retry bounds and the read direction code of `sdhci.h`, and the
platform's cache line size. -/
structure Config where
  sdhciMaxCmdRetry : Nat
  sdhciMaxTransRetry : Nat
  sdhciMmcRead : Nat
  cacheLine : Nat

/-- IS_CACHE_LINE_ALIGNED of the platform headers. -/
def Config.isCacheLineAligned (cfg : Config) (addr : Nat) : Bool :=
  addr &&& (cfg.cacheLine - 1) == 0

/-- The capability record of struct host_caps. -/
structure HostCaps where
  baseClkRate : Nat
  maxBlkLen : Nat
  busWidth8bit : Nat
  admaSupport : Nat
  voltage : Nat
  ddrSupport : Nat
  sdr50Support : Nat
  deriving DecidableEq, Repr

/-- The driver-owned part of struct sdhci_host; the base address is implicit in the
register offsets. -/
structure SdhciHost where
  curClkRate : Nat
  caps : HostCaps
  deriving DecidableEq, Repr

/-- The buffer of a data command, struct mmc_data. -/
structure MmcData where
  dataPtr : Nat
  numBlocks : Nat
  deriving DecidableEq, Repr

/-- The fields of struct mmc_command that the driver reads or writes. -/
structure MmcCommand where
  cmdIndex : Nat
  argument : Nat
  dataPresent : Nat
  cmdType : Nat
  respType : Nat
  resp : Fin 4 → Nat
  transMode : Nat
  data : MmcData

/-- One ADMA2 descriptor, laid out as struct desc_entry: attribute, length, address. -/
structure DescEntry where
  tranAtt : Nat
  len : Nat
  addr : Nat
  deriving DecidableEq, Repr

/-- Modelled from the spec: sizeof (struct desc_entry) on the 32-bit target. -/
def descEntrySize : Nat := 8

end Sdhci
