import DesktopAgent.Client.Basic
import DesktopAgent.Text.Utf8

/-!
A server that answers by a script and remembers what it was asked.

The requests always reach it and its answers always come back.
-/

namespace DesktopAgent.Rehearsal

open DesktopAgent.Client

/-- The text of bytes that are meant as UTF-8, without the mark that they may begin with. -/
def textOf : List UInt8 → String
  | 0xEF :: 0xBB :: 0xBF :: rest => Text.Utf8.decode rest
  | bytes => Text.Utf8.decode bytes

/-- A response of a status with a body in UTF-8; with some statuses no body is sent. -/
def responseOf (status : Nat) (body : List UInt8) : HttpResponse :=
  ⟨status, if status = 204 || status = 304 then "" else textOf body⟩

/-- What is left of a server's script, and the requests that it got. -/
structure Exchanges where
  responses : List HttpResponse
  received : List HttpRequest
deriving Repr

namespace Exchanges

/-- A server that was asked nothing. -/
def ofResponses (responses : List HttpResponse) : Exchanges := ⟨responses, []⟩

/-- The response after the end of the script. -/
def exhausted : HttpResponse := ⟨500, "script exhausted"⟩

def exchange (request : HttpRequest) (exchanges : Exchanges) :
    Except String HttpResponse × Exchanges :=
  (.ok (exchanges.responses.head?.getD exhausted),
    ⟨exchanges.responses.tail, exchanges.received ++ [request]⟩)

end Exchanges

def server : Transport Exchanges where
  exchange := Exchanges.exchange

end DesktopAgent.Rehearsal
