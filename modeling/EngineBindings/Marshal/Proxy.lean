import EngineBindings.Marshal.Argument

/-!
# Method proxies

The code that reads the arguments of a call, runs a method with them, and encodes what it gives
back.  All arguments are read first; the first that cannot be read is reported, and the method does
not run.
-/

namespace EngineBindings

/-- A method as it is called with encoded arguments. -/
structure MethodProxy where
  /-- What reports call the method. -/
  context : String
  params : List MarshaledType
  /-- Whether the method gives something back. -/
  returns : Bool
  deriving Inhabited

namespace MethodProxy

open Code Marshal

/-- The names of the arguments after they were read. -/
def locals (p : MethodProxy) : List Code :=
  (List.range p.params.length).map fun i => word ("arg" ++ toString i)

/-- The decoders of the arguments. -/
def decoders (p : MethodProxy) : List ArgumentDecoder :=
  p.params.map fun type => .ofCategory type.category false

/-- The code that reads one argument. -/
def decodeArgument (p : MethodProxy) (index : Nat) (type : MarshaledType) : Code :=
  fixed "let" ++ word ("arg" ++ toString index) ++ fixed ":" ++ type.code ++ fixed "= match" ++
    (ArgumentDecoder.ofCategory type.category false).code index ++
    brace
      (arm (fixed "Ok(value)") (word "value") ++
        armBlock (fixed "Err(err)")
          (report (text "Error calling `\x7b\x7d`: \x7b\x7d" ++ fixed "," ++ text p.context ++
            fixed ", err") ++
            fixed "; break 'call None;")) ++
    fixed ";"

/-- The code that reads the arguments, from a first index on. -/
def decodeArguments (p : MethodProxy) : Nat → List MarshaledType → Code
  | _, [] => []
  | index, type :: rest => p.decodeArgument index type ++ p.decodeArguments (index + 1) rest

/-- What is done with the method's call. -/
def finish (p : MethodProxy) (invoke : Code) : Code :=
  if p.returns then
    fixed "let result =" ++ invoke ++ fixed "; Some" ++ paren (encode (word "result"))
  else invoke ++ fixed "; None"

/-- The code of a proxy; `call` is the method's call with the arguments that were read. -/
def code (p : MethodProxy) (call : List Code → Code) : Code :=
  brace
    (fixed "#[allow(unused_labels)] let outcome: Option<::gdbind_runtime::Variant> = 'call:" ++
      brace (p.decodeArguments 0 p.params ++ p.finish (call p.locals)) ++
      fixed "; outcome")

end MethodProxy

end EngineBindings
