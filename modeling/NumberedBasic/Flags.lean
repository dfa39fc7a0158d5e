import NumberedBasic.Text.Quoted

/-! Flags on a command line. A flag begins with one dash or two, and its value follows behind an
equals sign or as the next argument. -/
namespace NumberedBasic

/-- A flag that changes settings of type σ. -/
inductive Flag (σ : Type) where
  /-- On or off; on when no value is given behind an equals sign. -/
  | switch (name : String) (set : Bool → σ → σ)
  /-- Needs a value. A value that does not fit is refused for a reason. -/
  | setting (name : String) (set : String → σ → Except String σ)

namespace Flag

inductive Error where
  | help
  | badForm (argument : String)
  | unknown (name : String)
  | noValue (name : String)
  | badSwitch (name value : String)
  | badValue (name value reason : String)
  deriving DecidableEq, Repr

/-- What is said about the error, nothing where help is asked for. -/
def Error.message? : Error → Option String
  | .help => none
  | .badForm argument => some ("bad flag syntax: " ++ argument)
  | .unknown name => some ("flag provided but not defined: -" ++ name)
  | .noValue name => some ("flag needs an argument: -" ++ name)
  | .badSwitch name value =>
      some ("invalid boolean value " ++ Text.Quoted.string value ++ " for -" ++ name
        ++ ": parse error")
  | .badValue name value reason =>
      some ("invalid value " ++ Text.Quoted.string value ++ " for flag -" ++ name ++ ": " ++ reason)

def name {σ : Type} : Flag σ → String
  | .switch name _ => name
  | .setting name _ => name

def readSwitch? (text : String) : Option Bool :=
  if ["1", "t", "T", "TRUE", "true", "True"].contains text then some true
  else if ["0", "f", "F", "FALSE", "false", "False"].contains text then some false
  else none

/-- What an argument looks like. -/
inductive Form where
  | operand
  /-- The end of the flags. -/
  | terminator
  | malformed
  | flag (name : String) (value : Option String)
  deriving DecidableEq, Repr

/-- The name up to the first equals sign, which cannot come first, and the value behind it. -/
def splitValue (first : Char) (rest : List Char) : Form :=
  let name := String.ofList (first :: rest.takeWhile (· != '='))
  match rest.dropWhile (· != '=') with
  | _ :: value => .flag name (some (String.ofList value))
  | [] => .flag name none

def named : List Char → Form
  | [] => .malformed
  | c :: rest => if c == '-' || c == '=' then .malformed else splitValue c rest

def form (argument : String) : Form :=
  match argument.toList with
  | ['-', '-'] => .terminator
  | '-' :: '-' :: rest => named rest
  | '-' :: c :: rest => named (c :: rest)
  | _ => .operand

/-- Applies the flags in front of the operands, which come back as they are. -/
def parse {σ : Type} (flags : List (Flag σ)) : σ → List String → Except Error (σ × List String)
  | s, [] => .ok (s, [])
  | s, argument :: rest =>
      match form argument with
      | .operand => .ok (s, argument :: rest)
      | .terminator => .ok (s, rest)
      | .malformed => .error (.badForm argument)
      | .flag name value =>
          match flags.find? (fun f => f.name == name), value with
          | none, _ => .error (if name == "help" || name == "h" then .help else .unknown name)
          | some (.switch _ set), none => parse flags (set true s) rest
          | some (.switch _ set), some v =>
              match readSwitch? v with
              | some b => parse flags (set b s) rest
              | none => .error (.badSwitch name v)
          | some (.setting _ set), some v =>
              match set v s with
              | .ok s => parse flags s rest
              | .error reason => .error (.badValue name v reason)
          | some (.setting _ set), none =>
              match rest with
              | [] => .error (.noValue name)
              | v :: rest =>
                  match set v s with
                  | .ok s => parse flags s rest
                  | .error reason => .error (.badValue name v reason)

end Flag

end NumberedBasic
