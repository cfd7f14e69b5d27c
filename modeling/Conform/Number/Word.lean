/-! How many numbers fixed widths can tell apart. -/

namespace Conform

/-- How many words of sixty-four bits there are. -/
def wordCount : Nat := 0x10000000000000000

/-- How many words of a hundred twenty-eight bits there are. -/
def doubleWordCount : Nat := 0x100000000000000000000000000000000

end Conform
