import FilterFleet.Failure
import FilterFleet.Node.Identity
import FilterFleet.Text.Blank

/-! # Connection settings of a node

What it takes to reach a node and to log in to it.  No form meant for people or for messages
contains the password.
-/

namespace FilterFleet

/-- The scheme of a node's address. -/
inductive Scheme where
  | http
  | https
deriving DecidableEq, Repr, Inhabited

namespace Scheme

/-- The word for a scheme. -/
def text : Scheme → String
  | http => "http"
  | https => "https"

/-- The scheme that a word names. -/
def ofText? (s : String) : Option Scheme := [http, https].find? fun x => x.text == s

/-- The port that an address leaves out. -/
def defaultPort : Scheme → Nat
  | http => 80
  | https => 443

/-- A scheme is written as its word. -/
def toJson (x : Scheme) : Json := .str x.text

/-- A scheme is read from its word. -/
def ofJson? (v : Json) : Option Scheme := v.choice?.bind ofText?

end Scheme

/-- A password, kept out of every message. -/
structure Secret where
  value : String
deriving DecidableEq, Inhabited

namespace Secret

/-- Whether no password is set. -/
def isEmpty (s : Secret) : Bool := s.value.isEmpty

/-- The form for diagnostics hides the value. -/
def debug (_ : Secret) : String := "Secret(***)"

end Secret

/-- Connection settings of one node. -/
structure NodeSettings where
  id : NodeId
  name : String
  scheme : Scheme
  host : String
  port : UInt16
  password : Secret
deriving DecidableEq, Inhabited

namespace NodeSettings

/-- The port of settings that name none. -/
def defaultPort : UInt16 := 80

/-- Settings with the default scheme and port. -/
def basic (id : NodeId) (name host password : String) : NodeSettings :=
  { id, name, scheme := .http, host, port := defaultPort, password := ⟨password⟩ }

/-- The identity of the node. -/
def identity (s : NodeSettings) : NodeIdentity := ⟨s.id, s.name, s.host⟩

/-- Host and port, by which two nodes are told apart. -/
def address (s : NodeSettings) : String := s.host ++ ":" ++ toString s.port.toNat

/-- The address below which the node's interface lies. -/
def baseUrl (s : NodeSettings) : String :=
  s.scheme.text ++ "://" ++ s.host ++ ":" ++ toString s.port.toNat ++ "/api/"

/-- The form for diagnostics. -/
def debug (s : NodeSettings) : String :=
  "NodeConnectionConfig \x7b id: NodeId(" ++ s.id.text ++ "), name: " ++ Text.quoted s.name ++
    ", url: " ++ Text.quoted s.baseUrl ++ ", .. \x7d"

/-- Check that name and host are not blank, the host holds no path and the port is not zero; the
first fault in this order is reported. -/
def validate (s : NodeSettings) : Except InputError Unit :=
  if (Text.trimChars s.name.toList).isEmpty then .error (.invalid "name" "cannot be empty")
  else if (Text.trimChars s.host.toList).isEmpty then .error (.invalid "host" "cannot be empty")
  else if s.host.toList.contains '/' then
    .error (.invalid "host" "must not contain a path")
  else if s.port == 0 then .error (.invalid "port" "cannot be 0")
  else .ok ()

/-- Id, name and host must be given. -/
def ofJson? (v : Json) : Option NodeSettings := do
  match ← v.fields? ["id", "name", "scheme", "host", "port", "password"] with
  | [id, name, scheme, host, port, password] =>
    some {
      id := ← Json.required NodeId.ofJson? id
      name := ← Json.required Json.str? name
      scheme := ← Json.orElse .http Scheme.ofJson? scheme
      host := ← Json.required Json.str? host
      port := ← Json.orElse defaultPort Json.uint16? port
      password := ← Json.orElse ⟨""⟩ (fun p => p.str?.map Secret.mk) password }
  | _ => none

end NodeSettings

end FilterFleet
