namespace Monitor8080

/-!
# Message topics

The monitor can report on itself in six topics, each switched on and off
by a bit of a mask.
-/

/-- What a message is about. -/
inductive Topic where
  | cpu
  | mem
  | port
  | int
  | break
  | hist
  deriving Repr, DecidableEq

namespace Topic

/-- The topics in listing order. -/
def all : List Topic :=
  [.cpu, .mem, .port, .int, .break, .hist]

def name : Topic → String
  | .cpu => "cpu"
  | .mem => "mem"
  | .port => "port"
  | .int => "int"
  | .break => "break"
  | .hist => "hist"

/-- The bit of a topic in the mask. -/
def bit : Topic → UInt32
  | .cpu => 1
  | .mem => 2
  | .port => 4
  | .int => 8
  | .break => 16
  | .hist => 32

/-- The topic of a name in either letter case. -/
def parse? (text : String) : Option Topic :=
  all.find? fun topic => topic.name == text.toLower

/-- Whether a mask has a topic switched on. -/
def isOn (topic : Topic) (mask : UInt32) : Bool :=
  mask &&& topic.bit != 0

/-- A mask with a topic switched on or off. -/
def switch (topic : Topic) (isWanted : Bool) (mask : UInt32) : UInt32 :=
  if isWanted then mask ||| topic.bit else mask &&& ~~~topic.bit

end Topic

end Monitor8080
