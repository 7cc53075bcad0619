/-!
# The sample program

A short program in the language, for trying the scanner out without a file.
-/

set_option autoImplicit false

namespace Ixo

/-- The sample program. Its first line is empty and its last one holds blanks only. -/
def sampleProgram : String :=
  String.intercalate "\n"
    ["",
     "        # Ixo Language Examples",
     "        fn foo(a: int, b: int): int \x7b",
     "            a += b",
     "            if a > 0 \x7b",
     "                return a",
     "            \x7d else \x7b",
     "                b**",
     "                return b",
     "            \x7d",
     "        \x7d",
     "    "]

end Ixo
