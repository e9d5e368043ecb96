import StoreBench.CommandLine.Request

/-!
Contract: the reading of arguments.

An option stands behind two dashes by its name, or behind one dash by a letter.  Its value is the
next argument or stands in the same one.  The value of an option is looked at only when the next
option, or the end, shows that it is complete; an unknown argument counts before it.

Owns: the numbers of arguments, and `Request.ofArguments`.
-/

namespace StoreBench.CommandLine

/-- The number that decimal digits after those of `value` lead to. -/
def addDigits : Nat → List Char → Except NumberFault Nat
  | value, [] => .ok value
  | value, digit :: rest =>
    let longer := value * 10 + (digit.toNat - 48)
    if !digit.isDigit then .error .badDigit
    else if UInt64.size ≤ longer then .error .tooLarge
    else addDigits longer rest

/-- The whole number of 64 bits that a text writes in decimal digits, with or without a plus
sign.  The first fault on the way counts. -/
def readNumber (text : String) : Except NumberFault UInt64 :=
  match text.toList with
  | [] => .error .empty
  | '+' :: digit :: rest => (addDigits 0 (digit :: rest)).map UInt64.ofNat
  | digits => (addDigits 0 digits).map UInt64.ofNat

def fillOnce {α : Type} (setting : Setting) (present : Option α) (value : Except Fault α) :
    Except Fault (Option α) :=
  if present.isSome then .error (.repeated (.setting setting)) else value.map some

def fillNumber (setting : Setting) (present : Option UInt64) (value : String) :
    Except Fault (Option UInt64) :=
  fillOnce setting present ((readNumber value).mapError (.badValue setting value))

/-- Turns a switch on, which must not be on yet. -/
def turnOn (switch : Switch) (present : Bool) : Except Fault Bool :=
  if present then .error (.repeated (.switch switch)) else .ok true

namespace Request

def set (request : Request) (setting : Setting) (value : String) : Except Fault Request := do
  match setting with
  | .file => return { request with file := ← fillOnce setting request.file (.ok value) }
  | .threads => return { request with threads := ← fillNumber setting request.threads value }
  | .targetRate =>
    return { request with targetRate := ← fillNumber setting request.targetRate value }
  | .measurement =>
    return { request with measurement := ← fillOnce setting request.measurement (.ok value) }
  | .warmupOps => return { request with warmupOps := ← fillNumber setting request.warmupOps value }
  | .statusInterval =>
    return { request with statusInterval := ← fillNumber setting request.statusInterval value }

def switchOn (request : Request) (switch : Switch) : Except Fault Request := do
  match switch with
  | .load => return { request with load := ← turnOn switch request.load }
  | .run => return { request with run := ← turnOn switch request.run }
  | .json => return { request with json := ← turnOn switch request.json }
  | .help => throw .help

end Request

/-- A request so far, and the setting whose value is awaited or not looked at yet. -/
structure Reading where
  request : Request
  pending : Option (Setting × Option String)
  deriving DecidableEq, Repr

namespace Reading

def settle (reading : Reading) : Except Fault Request :=
  match reading.pending with
  | none => .ok reading.request
  | some (setting, none) => .error (.missingValue setting)
  | some (setting, some value) => reading.request.set setting value

/-- Takes in an option, with the value that stands in the same argument if there is one. -/
def take (reading : Reading) (choice : Choice) (value : Option String) : Except Fault Reading :=
  match choice, value with
  | .switch switch, some value => .error (.unneededValue switch value)
  | .switch switch, none => do
    let request ← reading.settle
    return ⟨← request.switchOn switch, none⟩
  | .setting setting, some value => do
    let request ← reading.settle
    return ⟨← request.set setting value, none⟩
  | .setting setting, none => do
    let request ← reading.settle
    return ⟨request, some (setting, none)⟩

/-- Takes in an argument that is neither a name behind two dashes nor a letter behind one. -/
def takeValue (reading : Reading) (value : String) : Except Fault Reading :=
  match reading.pending with
  | some (setting, none) => .ok { reading with pending := some (setting, some value) }
  | _ => .error (.unknownArgument value)

/-- Takes in what stands behind two dashes: a name, with or without an equals sign and a value. -/
def takeLong (reading : Reading) (body : List Char) : Except Fault Reading :=
  let name := body.takeWhile (· ≠ '=')
  let value := match body.drop name.length with
    | '=' :: value => some (String.ofList value)
    | _ => none
  match Choice.ofName? (String.ofList name) with
  | some choice => reading.take choice value
  | none => .error (.unknownArgument ("--" ++ String.ofList name))

/-- Takes in what stands behind one dash: a letter, and behind the letter of a setting its value,
with or without an equals sign. -/
def takeShort (reading : Reading) (letter : Char) (rest : List Char) : Except Fault Reading :=
  match Choice.ofLetter? letter with
  | none => .error (.unknownArgument (String.ofList ['-', letter]))
  | some (.switch switch) => reading.take (.switch switch) none
  | some (.setting setting) =>
    reading.take (.setting setting) <|
      match rest with
      | [] => none
      | '=' :: value => some (String.ofList value)
      | value => some (String.ofList value)

/-- Takes in arguments.  Behind two dashes alone nothing may follow. -/
def takeAll (reading : Reading) : List String → Except Fault Request
  | [] => reading.settle
  | argument :: rest => do
    match argument.toList with
    | ['-', '-'] =>
      match rest with
      | [] => reading.settle
      | other :: _ => throw (.unknownArgument other)
    | '-' :: '-' :: body => takeAll (← reading.takeLong body) rest
    | '-' :: letter :: body => takeAll (← reading.takeShort letter body) rest
    | _ => takeAll (← reading.takeValue argument) rest

end Reading

/-- What arguments ask for; they must ask for a phase. -/
def Request.ofArguments (arguments : List String) : Except Fault Request := do
  let request ← Reading.takeAll ⟨.nothing, none⟩ arguments
  if request.phases.isEmpty then throw .noPhase
  return request

end StoreBench.CommandLine
