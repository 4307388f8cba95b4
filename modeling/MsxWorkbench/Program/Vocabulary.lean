/-
# Vocabulary

The reserved words of MSX BASIC. In a tokenised program a word is one byte, the statement words
counting up from 0x81; the built-in functions do the same after a byte 0xFF.
-/
namespace MsxWorkbench.Program

/-- Statement words and operators, the first with code 0x81. -/
def statementWords : List String := [
  "END", "FOR", "NEXT", "DATA", "INPUT", "DIM", "READ", "LET", "GOTO", "RUN", "IF", "RESTORE",
  "GOSUB", "RETURN", "REM", "STOP", "PRINT", "CLEAR", "LIST", "NEW", "ON", "WAIT", "DEF",
  "POKE", "CONT", "CSAVE", "CLOAD", "OUT", "LPRINT", "LLIST", "CLS", "WIDTH", "ELSE", "TRON",
  "TROFF", "SWAP", "ERASE", "ERROR", "RESUME", "DELETE", "AUTO", "RENUM", "DEFSTR", "DEFINT",
  "DEFSNG", "DEFDBL", "LINE", "OPEN", "FIELD", "GET", "PUT", "CLOSE", "LOAD", "MERGE", "FILES",
  "LSET", "RSET", "SAVE", "LFILES", "CIRCLE", "COLOR", "DRAW", "PAINT", "BEEP", "PLAY", "PSET",
  "PRESET", "SOUND", "SCREEN", "VPOKE", "SPRITE", "VDP", "BASE", "CALL", "TIME", "KEY", "MAX",
  "MOTOR", "BLOAD", "BSAVE", "DSKO$", "SET", "NAME", "KILL", "IPL", "COPY", "CMD", "LOCATE",
  "TO", "THEN", "TAB(", "STEP", "USR", "FN", "SPC(", "NOT", "ERL", "ERR", "STRING$", "USING",
  "INSTR", "'", "VARPTR", "CSRLIN", "ATTR$", "DSKI$", "OFF", "INKEY$", "POINT", ">", "=", "<",
  "+", "-", "*", "/", "^", "AND", "OR", "XOR", "EQV", "IMP", "MOD", "\\"]

/-- Built-in functions, the first with code 0x81 after 0xFF. -/
def functionWords : List String := [
  "LEFT$", "RIGHT$", "MID$", "SGN", "INT", "ABS", "SQR", "RND", "SIN", "LOG", "EXP", "COS",
  "TAN", "ATN", "FRE", "INP", "POS", "LEN", "STR$", "VAL", "ASC", "CHR$", "PEEK", "VPEEK",
  "SPACES$", "OCT$", "HEX$", "LPOS", "BIN$", "CINT", "CSNG", "CDBL", "FIX", "STICK", "STRIG",
  "PDL", "PAD", "DSKF", "FPOS", "CVI", "CVS", "CVD", "EOF", "LOC", "LOF", "MKI$", "MK$", "MKD$"]

/-- All reserved words. -/
def reservedWords : List String := statementWords ++ functionWords

/-- Whether a text is a reserved word. -/
def isReserved (s : List Char) : Bool := reservedWords.any (fun w => w.toList == s)

/-- Whether a text is the name of a built-in function. -/
def isFunctionWord (s : List Char) : Bool := functionWords.any (fun w => w.toList == s)

/-- The entry of a word list for a code byte. -/
def wordAt? (words : List String) (code : UInt8) : Option String :=
  if 0x81 ≤ code then words[code.toNat - 0x81]? else none

/-- The statement word of a code byte. -/
def statementWord? (code : UInt8) : Option String := wordAt? statementWords code

/-- The built-in function of a code byte. -/
def functionWord? (code : UInt8) : Option String := wordAt? functionWords code

end MsxWorkbench.Program
