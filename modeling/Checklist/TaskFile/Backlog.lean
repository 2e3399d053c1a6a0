namespace Checklist

/-- Bytes on their way to an open file. They are gathered first, and then wait in a block. -/
structure Backlog where
  block : List UInt8 := []
  gathered : List UInt8 := []
  deriving Repr, DecidableEq

abbrev Portions := List (List UInt8)

namespace Backlog

/-- The most bytes that wait in the block. -/
def blockSize : Nat := 4096

/-- Gathered bytes move on when there are this many, and before there would be more. -/
def gatheredSize : Nat := 8192

def bytes (backlog : Backlog) : List UInt8 :=
  backlog.block ++ backlog.gathered

/-- Moves what is gathered into the block. If there is no room, the block goes to the file before,
    and what no block can hold goes there as well. -/
def release (backlog : Backlog) : Portions × Backlog :=
  if backlog.bytes.length ≤ blockSize then ([], { block := backlog.bytes })
  else if backlog.gathered.length ≤ blockSize then ([backlog.block], { block := backlog.gathered })
  else ([backlog.block, backlog.gathered], {})

/-- Makes room for more bytes to be gathered, if there is too little. -/
def makeRoom (backlog : Backlog) (more : Nat) : Portions × Backlog :=
  if gatheredSize < backlog.gathered.length + more then backlog.release else ([], backlog)

/-- Gathers more bytes, for which there is room. -/
def gather (backlog : Backlog) (more : List UInt8) : Portions × Backlog :=
  let grown := { backlog with gathered := backlog.gathered ++ more }
  if gatheredSize ≤ grown.gathered.length then grown.release else ([], grown)

/-- Puts more bytes on their way. The portions that this brings to the file come with what is still
    on its way then. -/
def push (backlog : Backlog) (more : List UInt8) : Portions × Backlog :=
  let (early, roomy) := backlog.makeRoom more.length
  let (late, grown) := roomy.gather more
  (early ++ late, grown)

/-- Moving what is gathered loses no byte and changes no order. -/
theorem bytes_release (backlog : Backlog) :
    backlog.release.1.flatten ++ backlog.release.2.bytes = backlog.bytes := by
  unfold release
  split
  · simp [bytes]
  · split <;> simp [bytes]

theorem bytes_makeRoom (backlog : Backlog) (more : Nat) :
    (backlog.makeRoom more).1.flatten ++ (backlog.makeRoom more).2.bytes = backlog.bytes := by
  unfold makeRoom
  split
  · exact backlog.bytes_release
  · simp

theorem bytes_gather (backlog : Backlog) (more : List UInt8) :
    (backlog.gather more).1.flatten ++ (backlog.gather more).2.bytes = backlog.bytes ++ more := by
  simp only [gather]
  split
  · rw [bytes_release]
    simp [bytes]
  · simp [bytes]

/-- Bytes come to the file in the order in which they were put on their way, each of them once. -/
theorem bytes_push (backlog : Backlog) (more : List UInt8) :
    (backlog.push more).1.flatten ++ (backlog.push more).2.bytes = backlog.bytes ++ more := by
  simp only [push, List.flatten_append, List.append_assoc, bytes_gather]
  rw [← List.append_assoc, bytes_makeRoom]

end Backlog

end Checklist
