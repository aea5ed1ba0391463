import ConfigWords.Description.Sheet

/-! The settings of the EFH parts, by the register that holds their fields. -/
namespace ConfigWords.Efh

def pinSettings : List SettingEntry := [
  { index := 0
    name := "Ethernet RMII/MII Enable"
    category := "Ethernet"
    description := ""
    default := "Alternate MII"
    choices := .mapped "DEVCFG3" "FMIIEN" 24 1
      [("Default RMII", 0), ("Alternate MII", 1)]
      [("Default RMII", "OFF"), ("Alternate MII", "ON")] },
  { index := 1
    name := "Ethernet I/O Pin Select"
    category := "Ethernet"
    description := ""
    default := "Default Ethernet I/O Pins"
    choices := .mapped "DEVCFG3" "FETHIO" 25 1
      [("Default Ethernet I/O Pins", 0), ("Alternate Ethernet I/O Pins", 1)]
      [("Default Ethernet I/O Pins", "ON"), ("Alternate Ethernet I/O Pins", "OFF")] },
  { index := 2
    name := "Permission Group Lock One Way Configuration"
    category := "Security"
    description := ""
    default := "Allow multiple reconfigurations"
    choices := .mapped "DEVCFG3" "PGL1WAY" 27 1
      [("Allow multiple reconfigurations", 0), ("Allow only one reconfiguration", 1)]
      [("Allow multiple reconfigurations", "OFF"), ("Allow only one reconfiguration", "ON")] },
  { index := 3
    name := "Peripheral Module Disable Configuration"
    category := "Security"
    description := ""
    default := "Allow multiple reconfigurations"
    choices := .mapped "DEVCFG3" "PMDL1WAY" 28 1
      [("Allow multiple reconfigurations", 0), ("Allow only one reconfiguration", 1)]
      [("Allow multiple reconfigurations", "OFF"), ("Allow only one reconfiguration", "ON")] },
  { index := 4
    name := "Peripheral Pin Select Configuration"
    category := "Security"
    description := ""
    default := "Allow multiple reconfigurations"
    choices := .mapped "DEVCFG3" "IOL1WAY" 29 1
      [("Allow multiple reconfigurations", 0), ("Allow only one reconfiguration", 1)]
      [("Allow multiple reconfigurations", "OFF"), ("Allow only one reconfiguration", "ON")] },
  { index := 5
    name := "USB USBID Selection"
    category := "USB"
    description := ""
    default := "Controlled by USB Module"
    choices := .mapped "DEVCFG3" "FUSBIDIO" 30 1
      [("Controlled by USB Module", 0), ("Controlled by PORT", 1)]
      [("Controlled by USB Module", "ON"), ("Controlled by PORT", "OFF")] }]

def pllSettings : List SettingEntry := [
  { index := 6
    name := "System PLL Input Divider"
    category := "PLL"
    description := "SPLL input divider (FPLLIDIV)"
    default := "3x Divider"
    choices := .mapped "DEVCFG2" "FPLLIDIV" 0 3
      [("1x Divider", 0), ("2x Divider", 1), ("3x Divider", 2), ("4x Divider", 3),
       ("5x Divider", 4), ("6x Divider", 5), ("7x Divider", 6), ("8x Divider", 7)]
      [("1x Divider", "DIV_1"), ("2x Divider", "DIV_2"), ("3x Divider", "DIV_3"),
       ("4x Divider", "DIV_4"), ("5x Divider", "DIV_5"), ("6x Divider", "DIV_6"),
       ("7x Divider", "DIV_7"), ("8x Divider", "DIV_8")] },
  { index := 7
    name := "System PLL Input Range"
    category := "PLL"
    description := "SPLL input frequency range (FPLLRNG)"
    default := "5-10 MHz"
    choices := .mapped "DEVCFG2" "FPLLRNG" 4 3
      [("Bypass", 0), ("5-10 MHz", 1), ("8-16 MHz", 2), ("13-26 MHz", 3), ("21-42 MHz", 4),
       ("34-64 MHz", 5)]
      [("Bypass", "RANGE_BYPASS"), ("5-10 MHz", "RANGE_5_10_MHZ"), ("8-16 MHz", "RANGE_8_16_MHZ"),
       ("13-26 MHz", "RANGE_13_26_MHZ"), ("21-42 MHz", "RANGE_21_42_MHZ"),
       ("34-64 MHz", "RANGE_34_68_MHZ")] },
  { index := 8
    name := "System PLL Input Clock Selection"
    category := "PLL"
    description := "SPLL input clock source (FPLLICLK)"
    default := "POSC (Primary Oscillator)"
    choices := .mapped "DEVCFG2" "FPLLICLK" 7 1
      [("FRC Oscillator", 0), ("POSC (Primary Oscillator)", 1)]
      [("FRC Oscillator", "PLL_FRC"), ("POSC (Primary Oscillator)", "PLL_POSC")] },
  { index := 9
    name := "System PLL Multiplier"
    category := "PLL"
    description := "SPLL multiplier value (FPLLMULT), 1-128"
    default := "PLL Multiply by 50"
    choices := .mapped "DEVCFG2" "FPLLMULT" 8 7
      [("PLL Multiply by 1", 0), ("PLL Multiply by 2", 1), ("PLL Multiply by 3", 2),
       ("PLL Multiply by 4", 3), ("PLL Multiply by 5", 4), ("PLL Multiply by 6", 5),
       ("PLL Multiply by 7", 6), ("PLL Multiply by 8", 7), ("PLL Multiply by 9", 8),
       ("PLL Multiply by 10", 9), ("PLL Multiply by 11", 10), ("PLL Multiply by 12", 11),
       ("PLL Multiply by 13", 12), ("PLL Multiply by 14", 13), ("PLL Multiply by 15", 14),
       ("PLL Multiply by 16", 15), ("PLL Multiply by 17", 16), ("PLL Multiply by 18", 17),
       ("PLL Multiply by 19", 18), ("PLL Multiply by 20", 19), ("PLL Multiply by 21", 20),
       ("PLL Multiply by 22", 21), ("PLL Multiply by 23", 22), ("PLL Multiply by 24", 23),
       ("PLL Multiply by 25", 24), ("PLL Multiply by 26", 25), ("PLL Multiply by 27", 26),
       ("PLL Multiply by 28", 27), ("PLL Multiply by 29", 28), ("PLL Multiply by 30", 29),
       ("PLL Multiply by 31", 30), ("PLL Multiply by 32", 31), ("PLL Multiply by 33", 32),
       ("PLL Multiply by 34", 33), ("PLL Multiply by 35", 34), ("PLL Multiply by 36", 35),
       ("PLL Multiply by 37", 36), ("PLL Multiply by 38", 37), ("PLL Multiply by 39", 38),
       ("PLL Multiply by 40", 39), ("PLL Multiply by 41", 40), ("PLL Multiply by 42", 41),
       ("PLL Multiply by 43", 42), ("PLL Multiply by 44", 43), ("PLL Multiply by 45", 44),
       ("PLL Multiply by 46", 45), ("PLL Multiply by 47", 46), ("PLL Multiply by 48", 47),
       ("PLL Multiply by 49", 48), ("PLL Multiply by 50", 49), ("PLL Multiply by 51", 50),
       ("PLL Multiply by 52", 51), ("PLL Multiply by 53", 52), ("PLL Multiply by 54", 53),
       ("PLL Multiply by 55", 54), ("PLL Multiply by 56", 55), ("PLL Multiply by 57", 56),
       ("PLL Multiply by 58", 57), ("PLL Multiply by 59", 58), ("PLL Multiply by 60", 59),
       ("PLL Multiply by 61", 60), ("PLL Multiply by 62", 61), ("PLL Multiply by 63", 62),
       ("PLL Multiply by 64", 63), ("PLL Multiply by 65", 64), ("PLL Multiply by 66", 65),
       ("PLL Multiply by 67", 66), ("PLL Multiply by 68", 67), ("PLL Multiply by 69", 68),
       ("PLL Multiply by 70", 69), ("PLL Multiply by 71", 70), ("PLL Multiply by 72", 71),
       ("PLL Multiply by 73", 72), ("PLL Multiply by 74", 73), ("PLL Multiply by 75", 74),
       ("PLL Multiply by 76", 75), ("PLL Multiply by 77", 76), ("PLL Multiply by 78", 77),
       ("PLL Multiply by 79", 78), ("PLL Multiply by 80", 79), ("PLL Multiply by 81", 80),
       ("PLL Multiply by 82", 81), ("PLL Multiply by 83", 82), ("PLL Multiply by 84", 83),
       ("PLL Multiply by 85", 84), ("PLL Multiply by 86", 85), ("PLL Multiply by 87", 86),
       ("PLL Multiply by 88", 87), ("PLL Multiply by 89", 88), ("PLL Multiply by 90", 89),
       ("PLL Multiply by 91", 90), ("PLL Multiply by 92", 91), ("PLL Multiply by 93", 92),
       ("PLL Multiply by 94", 93), ("PLL Multiply by 95", 94), ("PLL Multiply by 96", 95),
       ("PLL Multiply by 97", 96), ("PLL Multiply by 98", 97), ("PLL Multiply by 99", 98),
       ("PLL Multiply by 100", 99), ("PLL Multiply by 101", 100), ("PLL Multiply by 102", 101),
       ("PLL Multiply by 103", 102), ("PLL Multiply by 104", 103), ("PLL Multiply by 105", 104),
       ("PLL Multiply by 106", 105), ("PLL Multiply by 107", 106), ("PLL Multiply by 108", 107),
       ("PLL Multiply by 109", 108), ("PLL Multiply by 110", 109), ("PLL Multiply by 111", 110),
       ("PLL Multiply by 112", 111), ("PLL Multiply by 113", 112), ("PLL Multiply by 114", 113),
       ("PLL Multiply by 115", 114), ("PLL Multiply by 116", 115), ("PLL Multiply by 117", 116),
       ("PLL Multiply by 118", 117), ("PLL Multiply by 119", 118), ("PLL Multiply by 120", 119),
       ("PLL Multiply by 121", 120), ("PLL Multiply by 122", 121), ("PLL Multiply by 123", 122),
       ("PLL Multiply by 124", 123), ("PLL Multiply by 125", 124), ("PLL Multiply by 126", 125),
       ("PLL Multiply by 127", 126), ("PLL Multiply by 128", 127)]
      [] },
  { index := 10
    name := "System PLL Output Clock Divider"
    category := "PLL"
    description := "SPLL output divider (FPLLODIV)"
    default := "2x Divider"
    choices := .mapped "DEVCFG2" "FPLLODIV" 16 3
      [("2x Divider", 0), ("4x Divider", 1), ("8x Divider", 2), ("16x Divider", 3),
       ("32x Divider", 4)]
      [("2x Divider", "DIV_2"), ("4x Divider", "DIV_4"), ("8x Divider", "DIV_8"),
       ("16x Divider", "DIV_16"), ("32x Divider", "DIV_32")] },
  { index := 11
    name := "USB PLL Input Clock Selection"
    category := "PLL"
    description := ""
    default := "USB PLL output is used for USB clock"
    choices := .mapped "DEVCFG2" "UPLLFSEL" 30 1
      [("System PLL output is used for USB clock", 0), ("USB PLL output is used for USB clock", 1)]
      [] }]

def clockSettings : List SettingEntry := [
  { index := 12
    name := "Oscillator Selection Bits"
    category := "Oscillator"
    description := ""
    default := "Primary Oscillator (XT, HS, EC) with PLL"
    choices := .mapped "DEVCFG1" "FNOSC" 0 3
      [("Fast RC Oscillator (FRC)", 0), ("Fast RC Oscillator (FRC) with PLL", 1),
       ("Primary Oscillator (XT, HS, EC)", 2), ("Primary Oscillator (XT, HS, EC) with PLL", 3),
       ("Secondary Oscillator (SOSC)", 4), ("Low-Power RC Oscillator (LPRC)", 5),
       ("Fast RC Oscillator (FRC) divided by 16", 6),
       ("Fast RC Oscillator (FRC) divided by FRCDIV", 7)]
      [("Fast RC Oscillator (FRC)", "FRCDIV"), ("Fast RC Oscillator (FRC) with PLL", "SPLL"),
       ("Primary Oscillator (XT, HS, EC)", "POSC"),
       ("Primary Oscillator (XT, HS, EC) with PLL", "SPLL"),
       ("Secondary Oscillator (SOSC)", "SOSC"), ("Low-Power RC Oscillator (LPRC)", "LPRC"),
       ("Fast RC Oscillator (FRC) divided by 16", "FRCDIV16"),
       ("Fast RC Oscillator (FRC) divided by FRCDIV", "FRCDIV")] },
  { index := 13
    name := "DMT Count Window Interval"
    category := "Deadman Timer"
    description := ""
    default := "Window/Interval value is zero"
    choices := .mapped "DEVCFG1" "DMTINTV" 3 3
      [("Window/Interval value is zero", 0), ("Window/Interval value is 1/2 counter value", 1),
       ("Window/Interval value is 3/4 counter value", 2),
       ("Window/Interval value is 7/8 counter value", 3),
       ("Window/Interval value is 15/16 counter value", 4),
       ("Window/Interval value is 31/32 counter value", 5),
       ("Window/Interval value is 63/64 counter value", 6),
       ("Window/Interval value is 127/128 counter value", 7)]
      [("Window/Interval value is zero", "WIN_0"),
       ("Window/Interval value is 1/2 counter value", "WIN_1_2"),
       ("Window/Interval value is 3/4 counter value", "WIN_3_4"),
       ("Window/Interval value is 7/8 counter value", "WIN_7_8"),
       ("Window/Interval value is 15/16 counter value", "WIN_15_16"),
       ("Window/Interval value is 31/32 counter value", "WIN_31_32"),
       ("Window/Interval value is 63/64 counter value", "WIN_63_64"),
       ("Window/Interval value is 127/128 counter value", "WIN_127_128")] },
  { index := 14
    name := "Secondary Oscillator Enable"
    category := "Oscillator"
    description := ""
    default := "Disabled"
    choices := .mapped "DEVCFG1" "FSOSCEN" 6 1
      [("Disabled", 0), ("Enabled", 1)]
      [("Disabled", "OFF"), ("Enabled", "ON")] },
  { index := 15
    name := "Internal/External Switch Over"
    category := "Oscillator"
    description := ""
    default := "Disabled"
    choices := .mapped "DEVCFG1" "IESO" 7 1
      [("Disabled", 0), ("Enabled", 1)]
      [("Disabled", "OFF"), ("Enabled", "ON")] },
  { index := 16
    name := "Primary Oscillator Configuration"
    category := "Oscillator"
    description := ""
    default := "HS mode (crystal, 10-40 MHz)"
    choices := .mapped "DEVCFG1" "POSCMOD" 8 2
      [("External clock mode", 0), ("XT mode (crystal, 4-10 MHz)", 1),
       ("HS mode (crystal, 10-40 MHz)", 2), ("Primary oscillator disabled", 3)]
      [("External clock mode", "EC"), ("XT mode (crystal, 4-10 MHz)", "XT"),
       ("HS mode (crystal, 10-40 MHz)", "HS"), ("Primary oscillator disabled", "OFF")] },
  { index := 17
    name := "CLKO Output Signal"
    category := "Oscillator"
    description := ""
    default := "Disabled (REFCLKO I/O pin enabled)"
    choices := .mapped "DEVCFG1" "OSCIOFNC" 10 1
      [("Disabled (REFCLKO I/O pin enabled)", 0), ("Enabled (REFCLKO disabled)", 1)]
      [("Disabled (REFCLKO I/O pin enabled)", "OFF"), ("Enabled (REFCLKO disabled)", "ON")] },
  { index := 18
    name := "Clock Switching and Monitor Selection"
    category := "Oscillator"
    description := ""
    default := "Clock switching and FSCM are disabled"
    choices := .mapped "DEVCFG1" "FCKSM" 14 2
      [("Clock switching and FSCM are enabled", 0),
       ("Clock switching is enabled, FSCM is disabled", 1),
       ("Clock switching and FSCM are disabled", 3)]
      [("Clock switching and FSCM are enabled", "CSECME"),
       ("Clock switching is enabled, FSCM is disabled", "CSECMD"),
       ("Clock switching and FSCM are disabled", "CSDCMD")] },
  { index := 19
    name := "Watchdog Timer Postscaler"
    category := "Watchdog"
    description := ""
    default := "1:1048576"
    choices := .mapped "DEVCFG1" "WDTPS" 16 5
      [("1:1", 0), ("1:2", 1), ("1:4", 2), ("1:8", 3), ("1:16", 4), ("1:32", 5), ("1:64", 6),
       ("1:128", 7), ("1:256", 8), ("1:512", 9), ("1:1024", 10), ("1:2048", 11), ("1:4096", 12),
       ("1:8192", 13), ("1:16384", 14), ("1:32768", 15), ("1:65536", 16), ("1:131072", 17),
       ("1:262144", 18), ("1:524288", 19), ("1:1048576", 20)]
      [("1:1", "PS1"), ("1:2", "PS2"), ("1:4", "PS4"), ("1:8", "PS8"), ("1:16", "PS16"),
       ("1:32", "PS32"), ("1:64", "PS64"), ("1:128", "PS128"), ("1:256", "PS256"),
       ("1:512", "PS512"), ("1:1024", "PS1024"), ("1:2048", "PS2048"), ("1:4096", "PS4096"),
       ("1:8192", "PS8192"), ("1:16384", "PS16384"), ("1:32768", "PS32768"),
       ("1:65536", "PS65536"), ("1:131072", "PS131072"), ("1:262144", "PS262144"),
       ("1:524288", "PS524288"), ("1:1048576", "PS1048576")] },
  { index := 20
    name := "WDT Stop During Flash Programming"
    category := "Watchdog"
    description := ""
    default := "WDT stops during Flash programming"
    choices := .mapped "DEVCFG1" "WDTSPGM" 21 1
      [("WDT stops during Flash programming", 0), ("WDT runs during Flash programming", 1)]
      [("WDT stops during Flash programming", "STOP"),
       ("WDT runs during Flash programming", "RUN")] },
  { index := 21
    name := "WDT Window Mode"
    category := "Watchdog"
    description := ""
    default := "Window mode disabled (normal mode)"
    choices := .mapped "DEVCFG1" "WINDIS" 22 1
      [("Window mode enabled", 0), ("Window mode disabled (normal mode)", 1)]
      [("Window mode enabled", "WINDOW"), ("Window mode disabled (normal mode)", "NORMAL")] },
  { index := 22
    name := "WDT Enable"
    category := "Watchdog"
    description := ""
    default := "WDT Disabled"
    choices := .mapped "DEVCFG1" "FWDTEN" 23 1
      [("WDT Disabled", 0), ("WDT Enabled", 1)]
      [("WDT Disabled", "OFF"), ("WDT Enabled", "ON")] },
  { index := 23
    name := "WDT Window Size"
    category := "Watchdog"
    description := ""
    default := "Window size is 25%"
    choices := .mapped "DEVCFG1" "FWDTWINSZ" 24 2
      [("Window size is 75%", 0), ("Window size is 50%", 1), ("Window size is 37.5%", 2),
       ("Window size is 25%", 3)]
      [("Window size is 75%", "WINSZ_75"), ("Window size is 50%", "WINSZ_50"),
       ("Window size is 37.5%", "WINSZ_37"), ("Window size is 25%", "WINSZ_25")] },
  { index := 24
    name := "DMT Count Selection"
    category := "Deadman Timer"
    description := ""
    default := "2^8 (256)"
    choices := .mapped "DEVCFG1" "DMTCNT" 26 5
      [("2^8 (256)", 0), ("2^9 (512)", 1), ("2^10 (1024)", 2), ("2^11 (2048)", 3),
       ("2^12 (4096)", 4), ("2^13 (8192)", 5), ("2^14 (16384)", 6), ("2^15 (32768)", 7),
       ("2^16 (65536)", 8), ("2^17", 9), ("2^18", 10), ("2^19", 11), ("2^20", 12), ("2^21", 13),
       ("2^22", 14), ("2^23", 15), ("2^24", 16), ("2^25", 17), ("2^26", 18), ("2^27", 19),
       ("2^28", 20), ("2^29", 21), ("2^30", 22), ("2^31", 23)]
      [("2^8 (256)", "DMT8"), ("2^9 (512)", "DMT9"), ("2^10 (1024)", "DMT10"),
       ("2^11 (2048)", "DMT11"), ("2^12 (4096)", "DMT12"), ("2^13 (8192)", "DMT13"),
       ("2^14 (16384)", "DMT14"), ("2^15 (32768)", "DMT15"), ("2^16 (65536)", "DMT16"),
       ("2^17", "DMT17"), ("2^18", "DMT18"), ("2^19", "DMT19"), ("2^20", "DMT20"),
       ("2^21", "DMT21"), ("2^22", "DMT22"), ("2^23", "DMT23"), ("2^24", "DMT24"),
       ("2^25", "DMT25"), ("2^26", "DMT26"), ("2^27", "DMT27"), ("2^28", "DMT28"),
       ("2^29", "DMT29"), ("2^30", "DMT30"), ("2^31", "DMT31")] },
  { index := 25
    name := "DMT Enable"
    category := "Deadman Timer"
    description := ""
    default := "Deadman Timer is disabled"
    choices := .mapped "DEVCFG1" "FDMTEN" 31 1
      [("Deadman Timer is disabled", 0), ("Deadman Timer is enabled", 1)]
      [("Deadman Timer is disabled", "OFF"), ("Deadman Timer is enabled", "ON")] }]

def bootSettings : List SettingEntry := [
  { index := 26
    name := "Background Debugger Enable"
    category := "Debug"
    description := ""
    default := "Debugger is enabled"
    choices := .mapped "DEVCFG0" "DEBUG" 0 2
      [("Debugger is enabled", 3), ("Debugger is disabled", 0)]
      [("Debugger is enabled", "ON"), ("Debugger is disabled", "OFF")] },
  { index := 27
    name := "JTAG Enable"
    category := "Debug"
    description := ""
    default := "JTAG Disabled"
    choices := .mapped "DEVCFG0" "JTAGEN" 2 1
      [("JTAG Disabled", 0), ("JTAG Port Enabled", 1)]
      [("JTAG Disabled", "OFF"), ("JTAG Port Enabled", "ON")] },
  { index := 28
    name := "ICE/ICD Comm Channel"
    category := "Debug"
    description := ""
    default := "Communicate on PGEC1/PGED1"
    choices := .mapped "DEVCFG0" "ICESEL" 3 2
      [("Communicate on PGEC1/PGED1", 3), ("Communicate on PGEC2/PGED2", 2),
       ("Communicate on PGEC3/PGED3", 1), ("Communicate on PGEC4/PGED4", 0)]
      [("Communicate on PGEC1/PGED1", "ICS_PGx1"), ("Communicate on PGEC2/PGED2", "ICS_PGx2"),
       ("Communicate on PGEC3/PGED3", "ICS_PGx3"), ("Communicate on PGEC4/PGED4", "ICS_PGx4")] },
  { index := 29
    name := "Trace Enable"
    category := "Debug"
    description := ""
    default := "Trace features are disabled"
    choices := .mapped "DEVCFG0" "TRCEN" 5 1
      [("Trace features are disabled", 0), ("Trace features are enabled", 1)]
      [("Trace features are disabled", "OFF"), ("Trace features are enabled", "ON")] },
  { index := 30
    name := "Boot ISA Selection"
    category := "Boot"
    description := ""
    default := "Boot code and Exception code is MIPS32"
    choices := .mapped "DEVCFG0" "BOOTISA" 6 1
      [("Boot code and Exception code is MIPS32", 0),
       ("Boot code and Exception code is microMIPS", 1)]
      [("Boot code and Exception code is MIPS32", "MIPS32"),
       ("Boot code and Exception code is microMIPS", "MICROMIPS")] },
  { index := 31
    name := "Dynamic Flash ECC"
    category := "Flash"
    description := ""
    default := "ECC and Dynamic ECC are disabled"
    choices := .mapped "DEVCFG0" "FECCCON" 8 2
      [("ECC and Dynamic ECC are disabled", 3), ("Dynamic ECC is disabled, ECC is enabled", 2),
       ("Dynamic ECC and ECC are enabled", 0)]
      [("ECC and Dynamic ECC are disabled", "OFF_UNLOCKED"),
       ("Dynamic ECC is disabled, ECC is enabled", "ON"),
       ("Dynamic ECC and ECC are enabled", "DYNAMIC")] },
  { index := 32
    name := "Flash Sleep Mode"
    category := "Flash"
    description := ""
    default := "Flash is powered down when device is in Sleep mode"
    choices := .mapped "DEVCFG0" "FSLEEP" 10 1
      [("Flash is powered down when device is in Sleep mode", 0),
       ("Flash is not powered down when device is in Sleep mode", 1)]
      [("Flash is powered down when device is in Sleep mode", "OFF"),
       ("Flash is not powered down when device is in Sleep mode", "VREGS")] },
  { index := 33
    name := "Debug Mode CPU Access Permission"
    category := "Debug"
    description := ""
    default := "Allow CPU access to ALL permissions"
    choices := .mapped "DEVCFG0" "DBGPER" 12 3
      [("Allow CPU access to ALL permissions", 0),
       ("Allow CPU access to Group 1 permission regions", 1),
       ("Allow CPU access to Group 2 permission regions", 2),
       ("Allow CPU access to Group 3 permission regions", 3),
       ("Allow CPU access to Group 4 permission regions", 4),
       ("Allow CPU access to Group 5 permission regions", 5),
       ("Allow CPU access to Group 6 permission regions", 6),
       ("Allow CPU access to Group 7 permission regions", 7)]
      [("Allow CPU access to ALL permissions", "PG_ALL")] },
  { index := 34
    name := "Soft Master Clear Enable"
    category := "Boot"
    description := ""
    default := "MCLR pin generates a normal system Reset"
    choices := .mapped "DEVCFG0" "SMCLR" 15 1
      [("MCLR pin generates a normal system Reset", 0),
       ("MCLR pin generates a Soft Master Clear only", 1)]
      [("MCLR pin generates a normal system Reset", "MCLR_NORM"),
       ("MCLR pin generates a Soft Master Clear only", "MCLR_POR")] },
  { index := 35
    name := "Secondary Oscillator Gain Control"
    category := "Oscillator Tuning"
    description := ""
    default := "Gain is 1.5x"
    choices := .mapped "DEVCFG0" "SOSCGAIN" 16 2
      [("Gain is 1.5x", 0), ("Gain is 3x", 1), ("Gain is 6x", 2), ("Gain is 12x", 3)]
      [] },
  { index := 36
    name := "Secondary Oscillator Boost"
    category := "Oscillator Tuning"
    description := ""
    default := "Normal start"
    choices := .mapped "DEVCFG0" "SOSCBOOST" 18 1
      [("Normal start", 0), ("Boost the kick start", 1)]
      [("Normal start", "OFF"), ("Boost the kick start", "ON")] },
  { index := 37
    name := "Primary Oscillator Gain Control"
    category := "Oscillator Tuning"
    description := ""
    default := "Gain is 1.5x"
    choices := .mapped "DEVCFG0" "POSCGAIN" 19 2
      [("Gain is 1.5x", 0), ("Gain is 3x", 1), ("Gain is 6x", 2), ("Gain is 12x", 3)]
      [] },
  { index := 38
    name := "Primary Oscillator Boost"
    category := "Oscillator Tuning"
    description := ""
    default := "Normal start"
    choices := .mapped "DEVCFG0" "POSCBOOST" 21 1
      [("Normal start", 0), ("Boost the kick start", 1)]
      [("Normal start", "OFF"), ("Boost the kick start", "ON")] },
  { index := 39
    name := "EJTAG Boot"
    category := "Debug"
    description := ""
    default := "Normal JTAG functionality"
    choices := .mapped "DEVCFG0" "EJTAGBEN" 30 1
      [("Normal JTAG functionality", 0), ("Enhanced JTAG enabled", 1)]
      [("Normal JTAG functionality", "NORMAL")] }]

def runtimeSettings : List SettingEntry := [
  { index := 40
    name := "Peripheral Bus 2 Clock Divisor"
    category := "Peripheral Clocks"
    description := "Peripheral Bus 2 services UART, SPI, I2C peripherals"
    default := "PBCLK2 is SYSCLK/4"
    choices := .informational
      ["PBCLK2 is SYSCLK/1", "PBCLK2 is SYSCLK/2", "PBCLK2 is SYSCLK/3", "PBCLK2 is SYSCLK/4",
       "PBCLK2 is SYSCLK/5", "PBCLK2 is SYSCLK/6", "PBCLK2 is SYSCLK/7", "PBCLK2 is SYSCLK/8"] },
  { index := 41
    name := "Peripheral Bus 3 Clock Divisor"
    category := "Peripheral Clocks"
    description := "Peripheral Bus 3 services Timer, ADC, Comparator peripherals"
    default := "PBCLK3 is SYSCLK/4"
    choices := .informational
      ["PBCLK3 is SYSCLK/1", "PBCLK3 is SYSCLK/2", "PBCLK3 is SYSCLK/3", "PBCLK3 is SYSCLK/4",
       "PBCLK3 is SYSCLK/5", "PBCLK3 is SYSCLK/6", "PBCLK3 is SYSCLK/7", "PBCLK3 is SYSCLK/8"] },
  { index := 42
    name := "PMD1 - ADC, CVR, CMP Disable"
    category := "Power Management"
    description := "Peripheral Module Disable register 1 (ADC, Comparators, CVref)"
    default := "All enabled"
    choices := .informational
      ["All enabled", "Custom"] },
  { index := 43
    name := "PMD2 - CMP, DAC Disable"
    category := "Power Management"
    description := "Peripheral Module Disable register 2 (Comparators, DAC)"
    default := "All enabled"
    choices := .informational
      ["All enabled", "Custom"] },
  { index := 44
    name := "PMD3 - IC, OC, Timer Disable"
    category := "Power Management"
    description := "Peripheral Module Disable register 3 (Input Capture, Output Compare, Timers)"
    default := "All enabled"
    choices := .informational
      ["All enabled", "Custom"] },
  { index := 45
    name := "PMD4 - USB Disable"
    category := "Power Management"
    description := "Peripheral Module Disable register 4 (USB)"
    default := "All enabled"
    choices := .informational
      ["All enabled", "Custom"] },
  { index := 46
    name := "PMD5 - UART, SPI, I2C Disable"
    category := "Power Management"
    description := "Peripheral Module Disable register 5 (UART, SPI, I2C)"
    default := "All enabled"
    choices := .informational
      ["All enabled", "Custom"] },
  { index := 47
    name := "PMD6 - REFO, PMP, SQI, ETH, CAN Disable"
    category := "Power Management"
    description := "Peripheral Module Disable register 6 (REFO, PMP, SQI, Ethernet, CAN)"
    default := "All enabled"
    choices := .informational
      ["All enabled", "Custom"] },
  { index := 48
    name := "PMD7 - DMA Disable"
    category := "Power Management"
    description := "Peripheral Module Disable register 7 (DMA)"
    default := "All enabled"
    choices := .informational
      ["All enabled", "Custom"] }]

def settings : List SettingEntry :=
  pinSettings ++ pllSettings ++ clockSettings ++ bootSettings ++ runtimeSettings

end ConfigWords.Efh
