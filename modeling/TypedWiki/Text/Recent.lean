import TypedWiki.Text.CodeSet

/-!
# Recent characters — what Unicode 17.0 added

Names are read with the characters of Unicode 17.0, patterns with those of Unicode 16.0.  The difference is one set:
both agree on which characters of Unicode 16.0 are word characters and digits and on how they pair up by case.
-/

namespace TypedWiki.Text

/-- The 4803 code points that Unicode 17.0 assigned. -/
def recentTable : CodeSet := ⟨[
    2191, 2192, 3164, 3165, 3292, 3293, 6863, 6878, 6880, 6892, 8385, 8386, 11158, 11159, 42958, 42960, 42962,
    42963, 42964, 42965, 42993, 42994, 64451, 64467, 64912, 64914, 64968, 64975, 67904, 67930, 69317, 69320,
    69328, 69337, 69370, 69372, 72544, 72552, 73136, 73180, 73184, 73194, 93856, 93881, 93883, 93908, 94194,
    94199, 100344, 100352, 101641, 101663, 101760, 101875, 118010, 118013, 118458, 118481, 118496, 118513, 124608,
    124639, 124640, 124662, 124670, 124672, 128728, 128729, 128887, 128891, 129232, 129241, 129620, 129624,
    129674, 129675, 129678, 129679, 129736, 129737, 129741, 129742, 129770, 129771, 129775, 129776, 130042,
    130043, 177978, 177984, 183970, 183982, 205744, 210042]⟩

/-- Whether a character came with Unicode 17.0. -/
def isRecent (c : Char) : Bool := if c.toNat < 128 then false else recentTable.contains c

end TypedWiki.Text
