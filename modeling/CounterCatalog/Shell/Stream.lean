import CounterCatalog.Shell.Machine

/-!
# Reading and writing streams

A stream leads to an open file, which several streams may share: what one of them reads or writes moves the
place at which the others go on. Writing to a channel that nobody reads any more ends the process by a
signal, unless it ignores that.

Whoever writes to a channel comes to an end before those who read it begin, so what is written without an end
has to be cut off. A process that wants more than there is of something that has been cut off is starved, and
what it writes is cut off in turn.
-/

set_option autoImplicit false

namespace CounterCatalog.Shell

/-- The signal of writing where nobody reads. -/
def pipeSignal : Nat := 13

/-- The number of bytes that sources without an end give at first. -/
def firstSupply : Nat := 65536

/-- The greatest number of bytes that sources without an end give. -/
def lastSupply : Nat := 16777216

/-- What the number of bytes is multiplied by when more are wanted. -/
def supplyFactor : Nat := 16

namespace Machine

/-- The shell with an open file changed. -/
def setOpening (machine : Machine) (number : Nat) (opening : Opening) : Machine :=
  { machine with openings := machine.openings.setIfInBounds number opening }

/-- The shell after bytes have been written to a channel. -/
def pour (machine : Machine) (number : Nat) (bytes : List UInt8) : Machine :=
  match machine.channels[number]? with
  | none => machine
  | some channel =>
    let after := { channel with
      pieces := bytes :: channel.pieces
      size := channel.size + bytes.length }
    { machine with channels := machine.channels.setIfInBounds number after }

/-- Nobody reads a channel any more. -/
def isDeaf (machine : Machine) (number : Nat) : Bool :=
  match machine.channels[number]? with
  | some channel => channel.limit?.any fun limit => limit < channel.size
  | none => true

/-- A source would give more than it gives. -/
def isCut (machine : Machine) (source : Source) : Bool :=
  match source with
  | .device .zero | .device .full => true
  | .channel number => (machine.channels[number]?).any Channel.stopped
  | _ => false

/-- What is read from a stream would go on. -/
def goesOn (machine : Machine) (stream : Nat) : Bool :=
  (machine.opening? stream).any fun item => item.2.reads && machine.isCut item.2.source

/-- The machine in which a channel has been cut off. -/
def cutOff (machine : Machine) (number : Nat) : Machine :=
  { machine with
    channels := machine.channels.modify number fun channel => { channel with stopped := true } }

/-- The size of the file that an open file leads to. -/
def fileSize (machine : Machine) (handle : Handle) : Nat :=
  match machine.tree.get? handle with
  | some (.file content _) => content.length
  | _ => 0

/-- What is to be read from a source, from an offset on. -/
def contentFrom (machine : Machine) (source : Source) (offset : Nat) : Except Fault (List UInt8) :=
  match source with
  | .file handle =>
    match machine.tree.get? handle with
    | some (.file content _) => .ok (content.drop offset)
    | _ => .ok []
  | .directory _ => .error .isADirectory
  | .device .null => .ok []
  | .device .terminal => .error .inputOutput
  | .device _ => .ok (List.replicate machine.supply 0)
  | .channel number => .ok (machine.channelContent number)
  | .bytes content => .ok (content.drop offset)

/-- What is to be read from a stream. -/
def remaining (machine : Machine) (stream : Nat) : Except Fault (List UInt8) :=
  match machine.opening? stream with
  | none => .error .badHandle
  | some (_, opening) =>
    if opening.reads then machine.contentFrom opening.source opening.offset else .error .badHandle

/-- The shell after a number of bytes have been read from a stream of which the others are left. -/
def leaveUnread (machine : Machine) (stream count : Nat) (left : List UInt8) : Machine :=
  match machine.opening? stream with
  | none => machine
  | some (number, opening) =>
    match opening.source with
    | .channel channel =>
      let change := fun found : Channel => { found with pieces := [], unread := left }
      { machine with channels := machine.channels.modify channel change }
    | _ => machine.setOpening number { opening with offset := opening.offset + count }

end Machine

namespace Step

/-- Writes bytes to a stream. -/
def writeTo (stream : Nat) (bytes : List UInt8) : Step (Except Fault Unit) := do
  let machine ← get
  match machine.opening? stream with
  | none => return .error .badHandle
  | some (number, opening) =>
    if !opening.writes then return .error .badHandle
    match opening.source with
    | .file handle =>
      let offset := if opening.appends then machine.fileSize handle else opening.offset
      let after := { machine with tree := machine.tree.writeAt handle offset bytes }
      set (after.setOpening number { opening with offset := offset + bytes.length })
      return .ok ()
    | .channel channel =>
      if !machine.isDeaf channel then
        set (machine.pour channel bytes)
        return .ok ()
      set (machine.cutOff channel)
      if machine.ignored.contains pipeSignal then return .error .brokenPipe
      throw (.killed pipeSignal)
    | .device device => return Tree.deviceTakes device
    | .directory _ | .bytes _ => return .error .badHandle

/-- Writes a text to standard output. -/
def print (text : Chars) : Step (Except Fault Unit) :=
  if text.isEmpty then pure (.ok ()) else writeTo 1 text.bytes

/-- Writes a line to standard error, if that is possible. -/
def complain (text : Chars) : Step Unit := do
  let _ ← writeTo 2 (text ++ ['\n']).bytes

/-- Waits for more than a source has given that goes on; the process gets no further. -/
def starve {α : Type} : Step α := do
  modify fun machine => { machine with starved := true }
  throw .exhausted

/-- Takes all that is left of a stream, and gives whether it goes on. -/
def drainPart (stream : Nat) : Step (Except Fault (List UInt8 × Bool)) := do
  let machine ← get
  match machine.remaining stream with
  | .error fault => return .error fault
  | .ok bytes =>
    set (machine.leaveUnread stream bytes.length [])
    return .ok (bytes, machine.goesOn stream)

/-- Takes all that is left of a stream. -/
def drain (stream : Nat) : Step (Except Fault (List UInt8)) := do
  match ← drainPart stream with
  | .error fault => return .error fault
  | .ok (bytes, goesOn) =>
    if goesOn then starve
    return .ok bytes

/-- What complaints of the shell begin with: its name, the line, and who complains. -/
def spoken (text : Chars) : Step Chars := do
  let machine ← get
  let place := machine.title ++ ": ".toList ++ Chars.ofNat machine.line ++ ": ".toList
  match machine.speaker? with
  | none => return place ++ text
  | some speaker => return place ++ speaker ++ ": ".toList ++ text

/-- Makes a complaint of the shell. -/
def warn (text : Chars) : Step Unit := do
  complain (← spoken text)

/-- Makes a complaint of the shell and gives the command up. -/
def fail {α : Type} (text : Chars) : Step α := do
  warn text
  setStatus 2
  throw .failed

/-- The variable that tells from which argument options are to be read next. -/
def optionVariable : Chars := "OPTIND".toList

/-- Gives a value to a variable, if that can be changed. -/
def assign (name value : Chars) : Step Unit := do
  let machine ← get
  if (machine.binding? name).any Variable.constant then
    fail (name ++ ": is read only".toList)
  let machine := machine.assign name value
  if name = optionVariable then
    set { machine with optionIndex := Chars.toNat (value.takeWhile Char.isDigit), optionOffset? := none }
  else set machine

end Step

/-- An open file that can only be read. -/
def Opening.ofReading (source : Source) : Opening :=
  ⟨source, 0, false, true, false⟩

/-- An open file that can only be written. -/
def Opening.ofWriting (source : Source) : Opening :=
  ⟨source, 0, false, false, true⟩

namespace Machine

/-- The source that a node is, opened for reading; the streams of the process are looked up in it. -/
def sourceOf (machine : Machine) (handle : Handle) (node : Node) : Except Fault Source :=
  match node with
  | .file _ _ => .ok (.file handle)
  | .directory _ _ _ => .ok (.directory handle)
  | .device .terminal => .error .noDevice
  | .device device => .ok (.device device)
  | .program _ => .ok (.bytes Tree.programBytes)
  | .link _ => .error .tooManyLinks
  | .stream number =>
    match machine.opening? number with
    | some (_, opening) => .ok opening.source
    | none => .error .notFound

/-- What is opened by a path for reading. -/
def openToRead (machine : Machine) (path : Chars) : Except Fault Opening :=
  match machine.tree.locate machine.directory path.bytes with
  | .error fault => .error fault
  | .ok (handle, node) => (machine.sourceOf handle node).map Opening.ofReading

/-- What is opened by a path for writing, and the shell with the files changed by that. -/
def openToWrite (machine : Machine) (path : Chars) (keep : List UInt8 → List UInt8) :
    Except Fault (Opening × Machine) :=
  let mode := 0o666 &&& (0o777 ^^^ machine.mask)
  match machine.tree.openWith machine.directory path.bytes mode keep with
  | .error fault => .error fault
  | .ok (.file handle, tree) => .ok (.ofWriting (.file handle), { machine with tree := tree })
  | .ok (.device device, tree) => .ok (.ofWriting (.device device), { machine with tree := tree })
  | .ok (.stream number, _) =>
    match machine.opening? number with
    | some (_, opening) =>
      match opening.source with
      | .file handle =>
        match machine.tree.get? handle with
        | some (.file content mode) =>
          .ok (.ofWriting (.file handle),
            { machine with tree := machine.tree.set handle (.file (keep content) mode) })
        | _ => .ok (.ofWriting (.file handle), machine)
      | source => .ok (.ofWriting source, machine)
    | none => .error .notFound

end Machine

end CounterCatalog.Shell
