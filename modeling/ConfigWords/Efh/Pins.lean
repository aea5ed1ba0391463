import ConfigWords.Description.Sheet

/-! The pin tables of the EFH parts. Pins that only larger packages have carry the size of the
smallest of them. -/
namespace ConfigWords.Efh

def groups : List PinGroup := [
  ⟨0, [
    ⟨0x0, "RPD2", 0⟩, ⟨0x1, "RPG8", 0⟩, ⟨0x2, "RPF4", 0⟩, ⟨0x3, "RPD10", 0⟩, ⟨0x4, "RPF1", 0⟩,
    ⟨0x5, "RPB9", 0⟩, ⟨0x6, "RPB10", 0⟩, ⟨0x7, "RPC14", 0⟩, ⟨0x8, "RPB5", 0⟩, ⟨0xA, "RPC1", 100⟩,
    ⟨0xB, "RPD14", 100⟩, ⟨0xC, "RPG1", 100⟩, ⟨0xD, "RPA14", 100⟩, ⟨0xE, "RPD6", 124⟩]⟩,
  ⟨1, [
    ⟨0x0, "RPD3", 0⟩, ⟨0x1, "RPG7", 0⟩, ⟨0x2, "RPF5", 0⟩, ⟨0x3, "RPD11", 0⟩, ⟨0x4, "RPF0", 0⟩,
    ⟨0x5, "RPB1", 0⟩, ⟨0x6, "RPE5", 0⟩, ⟨0x7, "RPC13", 0⟩, ⟨0x8, "RPB3", 0⟩, ⟨0xA, "RPC4", 100⟩,
    ⟨0xB, "RPD15", 100⟩, ⟨0xC, "RPG0", 100⟩, ⟨0xD, "RPA15", 100⟩, ⟨0xE, "RPD7", 124⟩]⟩,
  ⟨2, [
    ⟨0x0, "RPD9", 0⟩, ⟨0x1, "RPG6", 0⟩, ⟨0x2, "RPB8", 0⟩, ⟨0x3, "RPB15", 0⟩, ⟨0x4, "RPD4", 0⟩,
    ⟨0x5, "RPB0", 0⟩, ⟨0x6, "RPE3", 0⟩, ⟨0x7, "RPB7", 0⟩, ⟨0x9, "RPF12", 100⟩,
    ⟨0xA, "RPD12", 100⟩, ⟨0xB, "RPF8", 100⟩, ⟨0xC, "RPC3", 100⟩, ⟨0xD, "RPE9", 100⟩]⟩,
  ⟨3, [
    ⟨0x0, "RPD1", 0⟩, ⟨0x1, "RPG9", 0⟩, ⟨0x2, "RPB14", 0⟩, ⟨0x3, "RPD0", 0⟩, ⟨0x5, "RPB6", 0⟩,
    ⟨0x6, "RPD5", 0⟩, ⟨0x7, "RPB2", 0⟩, ⟨0x8, "RPF3", 0⟩, ⟨0x9, "RPF13", 100⟩,
    ⟨0xA, "No Connect", 0⟩, ⟨0xB, "RPF2", 100⟩, ⟨0xC, "RPC2", 100⟩, ⟨0xD, "RPE8", 100⟩]⟩]

def inputs : List InputEntry := [
  ⟨"INT3", "INT3R", 0, none, "Interrupt", "External Interrupt 3"⟩,
  ⟨"T2CK", "T2CKR", 0, none, "Timer", "Timer2 External Clock"⟩,
  ⟨"T6CK", "T6CKR", 0, none, "Timer", "Timer6 External Clock"⟩,
  ⟨"IC3", "IC3R", 0, none, "IC", "Input Capture 3"⟩,
  ⟨"IC7", "IC7R", 0, none, "IC", "Input Capture 7"⟩,
  ⟨"U1RX", "U1RXR", 0, none, "UART", "UART1 Receive"⟩,
  ⟨"U2CTS", "U2CTSR", 0, none, "UART", "UART2 Clear to Send"⟩,
  ⟨"U5RX", "U5RXR", 0, none, "UART", "UART5 Receive"⟩,
  ⟨"U6CTS", "U6CTSR", 0, none, "UART", "UART6 Clear to Send"⟩,
  ⟨"SDI1", "SDI1R", 0, none, "SPI", "SPI1 Data Input"⟩,
  ⟨"SDI3", "SDI3R", 0, none, "SPI", "SPI3 Data Input"⟩,
  ⟨"SDI5", "SDI5R", 0, none, "SPI", "SPI5 Data Input"⟩,
  ⟨"SS6", "SS6R", 0, none, "SPI", "SPI6 Slave Select"⟩,
  ⟨"REFCLKI1", "REFCLKI1R", 0, none, "Other", "Reference Clock Input 1"⟩,
  ⟨"INT4", "INT4R", 1, none, "Interrupt", "External Interrupt 4"⟩,
  ⟨"T5CK", "T5CKR", 1, none, "Timer", "Timer5 External Clock"⟩,
  ⟨"T7CK", "T7CKR", 1, none, "Timer", "Timer7 External Clock"⟩,
  ⟨"IC4", "IC4R", 1, none, "IC", "Input Capture 4"⟩,
  ⟨"IC8", "IC8R", 1, none, "IC", "Input Capture 8"⟩,
  ⟨"U3RX", "U3RXR", 1, none, "UART", "UART3 Receive"⟩,
  ⟨"U4CTS", "U4CTSR", 1, none, "UART", "UART4 Clear to Send"⟩,
  ⟨"SDI2", "SDI2R", 1, none, "SPI", "SPI2 Data Input"⟩,
  ⟨"SDI4", "SDI4R", 1, none, "SPI", "SPI4 Data Input"⟩,
  ⟨"REFCLKI4", "REFCLKI4R", 1, none, "Other", "Reference Clock Input 4"⟩,
  ⟨"INT2", "INT2R", 2, none, "Interrupt", "External Interrupt 2"⟩,
  ⟨"T3CK", "T3CKR", 2, none, "Timer", "Timer3 External Clock"⟩,
  ⟨"T8CK", "T8CKR", 2, none, "Timer", "Timer8 External Clock"⟩,
  ⟨"IC2", "IC2R", 2, none, "IC", "Input Capture 2"⟩,
  ⟨"IC5", "IC5R", 2, none, "IC", "Input Capture 5"⟩,
  ⟨"IC9", "IC9R", 2, none, "IC", "Input Capture 9"⟩,
  ⟨"U1CTS", "U1CTSR", 2, none, "UART", "UART1 Clear to Send"⟩,
  ⟨"U2RX", "U2RXR", 2, none, "UART", "UART2 Receive"⟩,
  ⟨"U5CTS", "U5CTSR", 2, none, "UART", "UART5 Clear to Send"⟩,
  ⟨"SS1", "SS1R", 2, none, "SPI", "SPI1 Slave Select"⟩,
  ⟨"SS3", "SS3R", 2, none, "SPI", "SPI3 Slave Select"⟩,
  ⟨"SS4", "SS4R", 2, none, "SPI", "SPI4 Slave Select"⟩,
  ⟨"SS5", "SS5R", 2, none, "SPI", "SPI5 Slave Select"⟩,
  ⟨"INT1", "INT1R", 3, none, "Interrupt", "External Interrupt 1"⟩,
  ⟨"T4CK", "T4CKR", 3, none, "Timer", "Timer4 External Clock"⟩,
  ⟨"T9CK", "T9CKR", 3, none, "Timer", "Timer9 External Clock"⟩,
  ⟨"IC1", "IC1R", 3, none, "IC", "Input Capture 1"⟩,
  ⟨"IC6", "IC6R", 3, none, "IC", "Input Capture 6"⟩,
  ⟨"U3CTS", "U3CTSR", 3, none, "UART", "UART3 Clear to Send"⟩,
  ⟨"U4RX", "U4RXR", 3, none, "UART", "UART4 Receive"⟩,
  ⟨"U6RX", "U6RXR", 3, none, "UART", "UART6 Receive"⟩,
  ⟨"SS2", "SS2R", 3, none, "SPI", "SPI2 Slave Select"⟩,
  ⟨"SDI6", "SDI6R", 3, none, "SPI", "SPI6 Data Input"⟩,
  ⟨"OCFA", "OCFAR", 3, none, "Other", "Output Compare Fault A"⟩,
  ⟨"REFCLKI3", "REFCLKI3R", 3, none, "Other", "Reference Clock Input 3"⟩]

def outputGroups : List (Int × List OutputValue) := [
  (0, [
    ⟨0x0, "No Connect", "Not connected", "Other"⟩,
    ⟨0x1, "U3TX", "UART3 Transmit", "UART"⟩,
    ⟨0x2, "U4RTS", "UART4 Request to Send", "UART"⟩,
    ⟨0x5, "SDO1", "SPI1 Data Output", "SPI"⟩,
    ⟨0x6, "SDO2", "SPI2 Data Output", "SPI"⟩,
    ⟨0x7, "SDO3", "SPI3 Data Output", "SPI"⟩,
    ⟨0x9, "SDO5", "SPI5 Data Output", "SPI"⟩,
    ⟨0xA, "SS6", "SPI6 Slave Select", "SPI"⟩,
    ⟨0xB, "OC3", "Output Compare 3", "OC"⟩,
    ⟨0xC, "OC6", "Output Compare 6", "OC"⟩,
    ⟨0xD, "REFCLKO4", "Reference Clock Output 4", "RefClk"⟩,
    ⟨0xE, "C2OUT", "Comparator 2 Output", "Other"⟩]),
  (1, [
    ⟨0x0, "No Connect", "Not connected", "Other"⟩,
    ⟨0x1, "U1TX", "UART1 Transmit", "UART"⟩,
    ⟨0x2, "U2RTS", "UART2 Request to Send", "UART"⟩,
    ⟨0x3, "U5TX", "UART5 Transmit", "UART"⟩,
    ⟨0x4, "U6RTS", "UART6 Request to Send", "UART"⟩,
    ⟨0x5, "SDO1", "SPI1 Data Output", "SPI"⟩,
    ⟨0x6, "SDO2", "SPI2 Data Output", "SPI"⟩,
    ⟨0x7, "SDO3", "SPI3 Data Output", "SPI"⟩,
    ⟨0x8, "SDO4", "SPI4 Data Output", "SPI"⟩,
    ⟨0x9, "SDO5", "SPI5 Data Output", "SPI"⟩,
    ⟨0xB, "OC4", "Output Compare 4", "OC"⟩,
    ⟨0xC, "OC7", "Output Compare 7", "OC"⟩,
    ⟨0xF, "REFCLKO1", "Reference Clock Output 1", "RefClk"⟩]),
  (2, [
    ⟨0x0, "No Connect", "Not connected", "Other"⟩,
    ⟨0x1, "U3RTS", "UART3 Request to Send", "UART"⟩,
    ⟨0x2, "U4TX", "UART4 Transmit", "UART"⟩,
    ⟨0x4, "U6TX", "UART6 Transmit", "UART"⟩,
    ⟨0x5, "SS1", "SPI1 Slave Select", "SPI"⟩,
    ⟨0x7, "SS3", "SPI3 Slave Select", "SPI"⟩,
    ⟨0x8, "SS4", "SPI4 Slave Select", "SPI"⟩,
    ⟨0x9, "SS5", "SPI5 Slave Select", "SPI"⟩,
    ⟨0xA, "SDO6", "SPI6 Data Output", "SPI"⟩,
    ⟨0xB, "OC5", "Output Compare 5", "OC"⟩,
    ⟨0xC, "OC8", "Output Compare 8", "OC"⟩,
    ⟨0xE, "C1OUT", "Comparator 1 Output", "Other"⟩,
    ⟨0xF, "REFCLKO3", "Reference Clock Output 3", "RefClk"⟩]),
  (3, [
    ⟨0x0, "No Connect", "Not connected", "Other"⟩,
    ⟨0x1, "U1RTS", "UART1 Request to Send", "UART"⟩,
    ⟨0x2, "U2TX", "UART2 Transmit", "UART"⟩,
    ⟨0x3, "U5RTS", "UART5 Request to Send", "UART"⟩,
    ⟨0x4, "U6TX", "UART6 Transmit", "UART"⟩,
    ⟨0x6, "SS2", "SPI2 Slave Select", "SPI"⟩,
    ⟨0x8, "SDO4", "SPI4 Data Output", "SPI"⟩,
    ⟨0xA, "SDO6", "SPI6 Data Output", "SPI"⟩,
    ⟨0xB, "OC2", "Output Compare 2", "OC"⟩,
    ⟨0xC, "OC1", "Output Compare 1", "OC"⟩,
    ⟨0xD, "OC9", "Output Compare 9", "OC"⟩])]

def outputs : List (Int × List String) := [
  (0, [
    "RPD2", "RPG8", "RPF4", "RPD10", "RPF1", "RPB9", "RPB10", "RPC14", "RPB5", "RPC1", "RPD14",
    "RPG1", "RPA14", "RPD6"]),
  (1, [
    "RPD3", "RPG7", "RPF5", "RPD11", "RPF0", "RPB1", "RPE5", "RPC13", "RPB3", "RPC4", "RPD15",
    "RPG0", "RPA15", "RPD7"]),
  (2, [
    "RPD9", "RPG6", "RPB8", "RPB15", "RPD4", "RPB0", "RPE3", "RPB7", "RPF12", "RPD12", "RPF8",
    "RPC3", "RPE9"]),
  (3, [
    "RPD1", "RPG9", "RPB14", "RPD0", "RPB6", "RPD5", "RPB2", "RPF3", "RPF13", "RPC2", "RPE8",
    "RPF2"])]

end ConfigWords.Efh
