import Reveille.Json.Record

/-!
# Control messages

Requests and responses of the control socket, each on a line of its own. An id or a result that
is null reads as absent.
-/

namespace Reveille.Control

open Reveille.Json

/-- The version that every message of ours names. -/
def version : String := "2.0"

structure Request where
  version : Option String
  method : String
  id : Option Value
deriving Repr

structure ResponseError where
  code : Int
  message : String
deriving DecidableEq, Repr

structure Response where
  version : String
  result : Option Value
  error : Option ResponseError
  id : Option Value
deriving Repr

def anyValue (depth : Nat) : Reader Value :=
  Value.reader depth

namespace Request

def new (method : String) : Request :=
  ⟨some Control.version, method, some (.int 1)⟩

def shape : Shape Request where
  name := "struct Request"
  blank := ⟨none, "", none⟩
  fields := [
    ⟨"jsonrpc", false, fun _ s =>
      (optional Json.string s).map fun (v, s) => (fun r => { r with version := v }, s)⟩,
    ⟨"method", true, fun _ s =>
      (Json.string s).map fun (v, s) => (fun r => { r with method := v }, s)⟩,
    ⟨"id", false, fun depth s =>
      (optional (anyValue depth) s).map fun (v, s) => (fun r => { r with id := v }, s)⟩]

def read (text : List Char) : Except Fault Request :=
  readWhole? (shape.read maxDepth) text

def toJson (r : Request) : Value :=
  .object ([("jsonrpc", .ofOption (r.version.map .string)), ("method", .string r.method)]
    ++ (r.id.map fun v => ("id", v)).toList)

end Request

namespace ResponseError

def shape : Shape ResponseError where
  name := "struct ResponseError"
  blank := ⟨0, ""⟩
  fields := [
    ⟨"code", true, fun _ s =>
      (int32 s).map fun (v, s) => (fun e => { e with code := v }, s)⟩,
    ⟨"message", true, fun _ s =>
      (Json.string s).map fun (v, s) => (fun e => { e with message := v }, s)⟩]

def toJson (e : ResponseError) : Value :=
  .object [("code", .int e.code), ("message", .string e.message)]

end ResponseError

namespace Response

def shape : Shape Response where
  name := "struct Response"
  blank := ⟨"", none, none, none⟩
  fields := [
    ⟨"jsonrpc", true, fun _ s =>
      (Json.string s).map fun (v, s) => (fun r => { r with version := v }, s)⟩,
    ⟨"result", false, fun depth s =>
      (optional (anyValue depth) s).map fun (v, s) => (fun r => { r with result := v }, s)⟩,
    ⟨"error", false, fun depth s =>
      (optional (ResponseError.shape.read depth) s).map fun (v, s) =>
        (fun r => { r with error := v }, s)⟩,
    ⟨"id", false, fun depth s =>
      (optional (anyValue depth) s).map fun (v, s) => (fun r => { r with id := v }, s)⟩]

def read (text : List Char) : Except Fault Response :=
  readWhole? (shape.read maxDepth) text

def toJson (r : Response) : Value :=
  .object ([("jsonrpc", .string r.version)] ++ (r.result.map fun v => ("result", v)).toList
    ++ (r.error.map fun e => ("error", e.toJson)).toList ++ [("id", .ofOption r.id)])

def ofResult (id : Option Value) (result : Value) : Response :=
  ⟨Control.version, some result, none, id⟩

def ofError (id : Option Value) (code : Int) (message : String) : Response :=
  ⟨Control.version, none, some ⟨code, message⟩, id⟩

end Response

end Reveille.Control
