import Disassembly.Reference.Entry
import Disassembly.Reference.Store
import Disassembly.Text.Utf8

/-!
The references that come with the library, one for each family. Their documents are like any other
and are read through the same reader on first use.
-/

namespace Disassembly.Reference.Bundled

def x86Entries : List Entry :=
  [⟨["ADD"], "Add"⟩,
   ⟨["OR"], "Logical Inclusive OR"⟩,
   ⟨["ADC"], "Add with Carry"⟩,
   ⟨["SBB"], "Integer Subtraction with Borrow"⟩,
   ⟨["AND"], "Logical AND"⟩,
   ⟨["SUB"], "Subtract"⟩,
   ⟨["XOR"], "Logical Exclusive OR"⟩,
   ⟨["CMP"], "Compare Two Operands"⟩,
   ⟨["PUSH"], "Push Word, Doubleword or Quadword Onto the Stack"⟩,
   ⟨["POP"], "Pop a Value from the Stack"⟩,
   ⟨["MOVSXD"], "Move with Sign-Extension"⟩,
   ⟨["IMUL"], "Signed Multiply"⟩,
   ⟨["JO"], "Jump short if overflow (OF=1)"⟩,
   ⟨["JNO"], "Jump short if not overflow (OF=0)"⟩,
   ⟨["JB", "JNAE", "JC"], "Jump short if below/not above or equal/carry (CF=1)"⟩,
   ⟨["JNB", "JAE", "JNC"], "Jump short if not below/above or equal/not carry (CF=0)"⟩,
   ⟨["JZ", "JE"], "Jump short if zero/equal (ZF=1)"⟩,
   ⟨["JNZ", "JNE"], "Jump short if not zero/not equal (ZF=0)"⟩,
   ⟨["JBE", "JNA"], "Jump short if below or equal/not above (CF=1 OR ZF=1)"⟩,
   ⟨["JNBE", "JA"], "Jump short if not below or equal/above (CF=0 AND ZF=0)"⟩,
   ⟨["JS"], "Jump short if sign (SF=1)"⟩,
   ⟨["JNS"], "Jump short if not sign (SF=0)"⟩,
   ⟨["JP", "JPE"], "Jump short if parity/parity even (PF=1)"⟩,
   ⟨["JNP", "JPO"], "Jump short if not parity/parity odd (PF=0)"⟩,
   ⟨["JL", "JNGE"], "Jump short if less/not greater (SF!=OF)"⟩,
   ⟨["JNL", "JGE"], "Jump short if not less/greater or equal (SF=OF)"⟩,
   ⟨["JLE", "JNG"], "Jump short if less or equal/not greater ((ZF=1) OR (SF!=OF))"⟩,
   ⟨["JNLE", "JG"], "Jump short if not less nor equal/greater ((ZF=0) AND (SF=OF))"⟩,
   ⟨["TEST"], "Logical Compare"⟩,
   ⟨["XCHG"], "Exchange Register/Memory with Register"⟩,
   ⟨["MOV"], "Move"⟩,
   ⟨["LEA"], "Load Effective Address"⟩,
   ⟨["NOP"], "No Operation"⟩,
   ⟨["CBW", "CWDE", "CDQE"], "Convert Byte to Word / Word to Doubleword / Doubleword to Quadword"⟩,
   ⟨["CWD", "CDQ", "CQO"],
     "Convert Word to Doubleword / Doubleword to Quadword / Quadword to Octoword"⟩,
   ⟨["PUSHF", "PUSHFQ"], "Push rFLAGS Register onto the Stack"⟩,
   ⟨["POPF", "POPFQ"], "Pop Stack into rFLAGS Register"⟩,
   ⟨["ROL"], "Rotate"⟩,
   ⟨["ROR"], "Rotate"⟩,
   ⟨["SHL", "SAL"], "Shift"⟩,
   ⟨["SHR"], "Shift"⟩,
   ⟨["SAR"], "Shift"⟩,
   ⟨["RETN"], "Return from procedure"⟩,
   ⟨["LEAVE"], "High Level Procedure Exit"⟩,
   ⟨["INT"], "Call to Interrupt Procedure"⟩,
   ⟨["CALL"], "Call Procedure"⟩,
   ⟨["JMP"], "Jump"⟩,
   ⟨["HLT"], "Halt"⟩,
   ⟨["NOT"], "One's Complement Negation"⟩,
   ⟨["NEG"], "Two's Complement Negation"⟩,
   ⟨["MUL"], "Unsigned Multiply"⟩,
   ⟨["DIV"], "Unsigned Divide"⟩,
   ⟨["IDIV"], "Signed Divide"⟩,
   ⟨["INC"], "Increment by 1"⟩,
   ⟨["DEC"], "Decrement by 1"⟩,
   ⟨["SYSCALL"], "Fast System Call"⟩,
   ⟨["UD2"], "Undefined Instruction"⟩,
   ⟨["MOVUPS"], "Move Unaligned Packed Single-FP Values"⟩,
   ⟨["MOVSS"], "Move Scalar Single-FP Values"⟩,
   ⟨["MOVAPS"], "Move Aligned Packed Single-FP Values"⟩,
   ⟨["UCOMISS"], "Unordered Compare Scalar Single-FP Values and Set EFLAGS"⟩,
   ⟨["UCOMISD"], "Unordered Compare Scalar Double-FP Values and Set EFLAGS"⟩,
   ⟨["RDTSC"], "Read Time-Stamp Counter"⟩,
   ⟨["CMOVZ", "CMOVE"], "Conditional Move - zero/equal (ZF=1)"⟩,
   ⟨["CMOVNZ", "CMOVNE"], "Conditional Move - not zero/not equal (ZF=0)"⟩,
   ⟨["CMOVL", "CMOVNGE"], "Conditional Move - less/not greater (SF!=OF)"⟩,
   ⟨["CMOVNLE", "CMOVG"], "Conditional Move - not less nor equal/greater ((ZF=0) AND (SF=OF))"⟩,
   ⟨["XORPS"], "Bitwise Logical XOR for Single-FP Values"⟩,
   ⟨["MOVD"], "Move Doubleword"⟩,
   ⟨["MOVDQU"], "Move Unaligned Double Quadword"⟩,
   ⟨["SETZ", "SETE"], "Set Byte on Condition - zero/equal (ZF=1)"⟩,
   ⟨["SETNZ", "SETNE"], "Set Byte on Condition - not zero/not equal (ZF=0)"⟩,
   ⟨["CPUID"], "CPU Identification"⟩,
   ⟨["MFENCE"], "Memory Fence"⟩,
   ⟨["LFENCE"], "Load Fence"⟩,
   ⟨["SFENCE"], "Store Fence"⟩,
   ⟨["IMUL"], "Signed Multiply"⟩,
   ⟨["CMPXCHG"], "Compare and Exchange"⟩,
   ⟨["MOVZX"], "Move with Zero-Extend"⟩,
   ⟨["MOVSX"], "Move with Sign-Extension"⟩,
   ⟨["XADD"], "Exchange and Add"⟩,
   ⟨["BSWAP"], "Byte Swap"⟩,
   ⟨["PXOR"], "Logical Exclusive OR"⟩]

def armEntries : List Entry :=
  [⟨["ADD"], "Add"⟩,
   ⟨["ADDS"], "Add, setting flags"⟩,
   ⟨["ADR"], "Form PC-relative address"⟩,
   ⟨["ADRP"], "Form PC-relative address to 4KB page"⟩,
   ⟨["AND"], "Bitwise AND"⟩,
   ⟨["ANDS"], "Bitwise AND, setting flags"⟩,
   ⟨["ASR"], "Arithmetic Shift Right"⟩,
   ⟨["B"], "Branch"⟩,
   ⟨["B.COND"], "Branch conditionally"⟩,
   ⟨["BFI"], "Bitfield Insert"⟩,
   ⟨["BIC"], "Bitwise Bit Clear"⟩,
   ⟨["BL"], "Branch with Link"⟩,
   ⟨["BLR"], "Branch with Link to Register"⟩,
   ⟨["BR"], "Branch to Register"⟩,
   ⟨["BRK"], "Breakpoint instruction"⟩,
   ⟨["CBNZ"], "Compare and Branch on Nonzero"⟩,
   ⟨["CBZ"], "Compare and Branch on Zero"⟩,
   ⟨["CCMP"], "Conditional Compare"⟩,
   ⟨["CINC"], "Conditional Increment"⟩,
   ⟨["CMN"], "Compare Negative"⟩,
   ⟨["CMP"], "Compare"⟩,
   ⟨["CSEL"], "Conditional Select"⟩,
   ⟨["CSET"], "Conditional Set"⟩,
   ⟨["CSINC"], "Conditional Select Increment"⟩,
   ⟨["DMB"], "Data Memory Barrier"⟩,
   ⟨["DSB"], "Data Synchronization Barrier"⟩,
   ⟨["EOR"], "Bitwise Exclusive OR"⟩,
   ⟨["FADD"], "Floating-point Add"⟩,
   ⟨["FCMP"], "Floating-point quiet Compare"⟩,
   ⟨["FCVTZS"], "Floating-point Convert to Signed integer, rounding toward Zero"⟩,
   ⟨["FDIV"], "Floating-point Divide"⟩,
   ⟨["FMOV"], "Floating-point Move"⟩,
   ⟨["FMUL"], "Floating-point Multiply"⟩,
   ⟨["FSUB"], "Floating-point Subtract"⟩,
   ⟨["ISB"], "Instruction Synchronization Barrier"⟩,
   ⟨["LDAR"], "Load-Acquire Register"⟩,
   ⟨["LDAXR"], "Load-Acquire Exclusive Register"⟩,
   ⟨["LDP"], "Load Pair of Registers"⟩,
   ⟨["LDR"], "Load Register"⟩,
   ⟨["LDRB"], "Load Register Byte"⟩,
   ⟨["LDRH"], "Load Register Halfword"⟩,
   ⟨["LDRSW"], "Load Register Signed Word"⟩,
   ⟨["LDUR"], "Load Register (unscaled)"⟩,
   ⟨["LSL"], "Logical Shift Left"⟩,
   ⟨["LSR"], "Logical Shift Right"⟩,
   ⟨["MADD"], "Multiply-Add"⟩,
   ⟨["MOV"], "Move"⟩,
   ⟨["MOVK"], "Move wide with keep"⟩,
   ⟨["MOVN"], "Move wide with NOT"⟩,
   ⟨["MOVZ"], "Move wide with zero"⟩,
   ⟨["MRS"], "Move System Register to general-purpose register"⟩,
   ⟨["MSUB"], "Multiply-Subtract"⟩,
   ⟨["MUL"], "Multiply"⟩,
   ⟨["MVN"], "Bitwise NOT"⟩,
   ⟨["NEG"], "Negate"⟩,
   ⟨["NOP"], "No Operation"⟩,
   ⟨["ORR"], "Bitwise OR"⟩,
   ⟨["RET"], "Return from subroutine"⟩,
   ⟨["SBFM"], "Signed Bitfield Move"⟩,
   ⟨["SDIV"], "Signed Divide"⟩,
   ⟨["STLR"], "Store-Release Register"⟩,
   ⟨["STLXR"], "Store-Release Exclusive Register"⟩,
   ⟨["STP"], "Store Pair of Registers"⟩,
   ⟨["STR"], "Store Register"⟩,
   ⟨["STRB"], "Store Register Byte"⟩,
   ⟨["STRH"], "Store Register Halfword"⟩,
   ⟨["STUR"], "Store Register (unscaled)"⟩,
   ⟨["SUB"], "Subtract"⟩,
   ⟨["SUBS"], "Subtract, setting flags"⟩,
   ⟨["SXTW"], "Sign Extend Word"⟩,
   ⟨["TBNZ"], "Test bit and Branch if Nonzero"⟩,
   ⟨["TBZ"], "Test bit and Branch if Zero"⟩,
   ⟨["TST"], "Test bits"⟩,
   ⟨["UBFM"], "Unsigned Bitfield Move"⟩,
   ⟨["UBFX"], "Unsigned Bitfield Extract"⟩,
   ⟨["UDIV"], "Unsigned Divide"⟩,
   ⟨["UMULH"], "Unsigned Multiply High"⟩,
   ⟨["UXTW"], "Unsigned Extend Word"⟩]

def entries : Family → List Entry
  | .x86 => x86Entries
  | .arm => armEntries

def documents : Documents := fun family =>
  .file (Text.Utf8.encode (Entry.printDocument (entries family)))

end Disassembly.Reference.Bundled
