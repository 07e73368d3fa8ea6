/-!
# Frames

Every call that has not returned yet has a frame, which remembers the function that was entered
and the line that called it. Control comes back to the line after the call.

A call stack is a list of frames with the innermost call first.

## Main definitions

* `Frame` — a call under way
* `Frame.returnLine` — where control goes when the call is over
-/

namespace LineDebugger

/-- A call under way. -/
structure Frame where
  function : String
  callLine : Nat
deriving DecidableEq

/-- The line on which execution goes on when the call is over. -/
def Frame.returnLine (frame : Frame) : Nat := frame.callLine + 1

end LineDebugger
