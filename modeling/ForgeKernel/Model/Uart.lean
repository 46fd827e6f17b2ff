import ForgeKernel.Model.Kernel

/-!
# USART2 driver

`uart.c`: the divisor of the baud rate, the driver's static variables, and the
driver functions cut at the loops in which they wait for the peripheral.  What
the code reads from the status and data registers is an input of each step.
-/

namespace ForgeKernel

/-- The values that the next reads of `FR_USART2_SR` and `FR_USART2_DR` return. -/
structure UsartInput where
  sr : Word
  dr : Word
  deriving DecidableEq, Repr

/-- `FR_USART_SR_RXNE`. -/
def usartSrRxne : Word := 0x20

/-- `FR_USART_SR_TC`. -/
def usartSrTc : Word := 0x40

/-- `FR_USART_SR_TXE`. -/
def usartSrTxe : Word := 0x80

/-- `FR_USART_ERROR_MASK`: PE, FE, NE and ORE. -/
def usartErrorMask : Word := 0x0F

/-- The static variables of `uart.c`. -/
structure Uart where
  initialized : Bool
  peripheralClockHz : Word
  baudRate : Word
  baudDivisor : Word
  txBytes : Word
  rxBytes : Word
  rxErrorCount : Word
  deriving DecidableEq, Repr

/-- The driver in zero-initialized storage. -/
def Uart.zero : Uart := ⟨false, 0, 0, 0, 0, 0, 0⟩

/-- `fr_uart_calculate_brr`. -/
def uartCalculateBrr (peripheralClockHz baudRate : Word) : Word :=
  if peripheralClockHz = 0 ∨ baudRate = 0 then 0
  else
    let rounding := baudRate / 2
    if 0xFFFFFFFF#32 - rounding < peripheralClockHz then 0
    else
      let divisor := (peripheralClockHz + rounding) / baudRate
      if divisor < 16 ∨ 0xFFFF#32 < divisor then 0 else divisor

/-- `fr_uart_init`; `none` is the `false` return. -/
def uartInit (uart : Uart) (peripheralClockHz baudRate : Word) : Option Uart :=
  if uart.initialized then none
  else
    let baudDivisor := uartCalculateBrr peripheralClockHz baudRate
    if baudDivisor = 0 then none
    else some ⟨true, peripheralClockHz, baudRate, baudDivisor, 0, 0, 0⟩

/-- The checks of `fr_uart_write` on a non-null pointer. -/
def uartWriteAllowed (cpu : Cpu) (uart : Uart) (length : Nat) : Bool :=
  uart.initialized && decide (length ≠ 0) && cpu.threadContextAllowed

/-- One turn of the `TXE` loop of `fr_uart_write`: `none` while the data register
is full. -/
def uartTransmit (uart : Uart) (input : UsartInput) : Option Uart :=
  if input.sr &&& usartSrTxe = 0 then none
  else some { uart with txBytes := uart.txBytes + 1 }

/-- One turn of the `TC` loop of `fr_uart_write`. -/
def uartDrained (input : UsartInput) : Bool :=
  decide (input.sr &&& usartSrTc ≠ 0)

/-- `fr_uart_try_read` with a non-null pointer: the byte, when there is one. -/
def uartTryRead (cpu : Cpu) (uart : Uart) (input : UsartInput) : Uart × Option Byte :=
  if uart.initialized = false ∨ cpu.threadContextAllowed = false then (uart, none)
  else if input.sr &&& usartErrorMask ≠ 0 then
    ({ uart with rxErrorCount := uart.rxErrorCount + 1 }, none)
  else if input.sr &&& usartSrRxne = 0 then (uart, none)
  else ({ uart with rxBytes := uart.rxBytes + 1 }, some (input.dr.setWidth 8))

/-- `fr_uart_status_t`. -/
structure UartStatus where
  peripheralClockHz : Word
  baudRate : Word
  baudDivisor : Word
  txBytes : Word
  rxBytes : Word
  rxErrorCount : Word
  initialized : Bool
  txReady : Bool
  rxReady : Bool
  deriving DecidableEq, Repr

/-- `fr_uart_get_status` with a non-null pointer. -/
def uartGetStatus (uart : Uart) (input : UsartInput) : UartStatus where
  peripheralClockHz := uart.peripheralClockHz
  baudRate := uart.baudRate
  baudDivisor := uart.baudDivisor
  txBytes := uart.txBytes
  rxBytes := uart.rxBytes
  rxErrorCount := uart.rxErrorCount
  initialized := uart.initialized
  txReady := decide (input.sr &&& usartSrTxe ≠ 0)
  rxReady := decide (input.sr &&& usartSrRxne ≠ 0)

end ForgeKernel
