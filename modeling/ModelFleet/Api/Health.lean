import ModelFleet.Json.Decode

/-!
# Health

What the daemon says about itself, and how long it has been up, in the two largest units that say
something.
-/

namespace ModelFleet

def version : String := "0.1.0"

/-- A time in milliseconds, shown in seconds, minutes, hours or days. -/
def uptimeText (millis : Int) : String :=
  let secs := millis.tdiv 1000
  if secs < 60 then s!"{secs}s"
  else if secs < 3600 then s!"{secs / 60}m {secs % 60}s"
  else if secs < 86400 then s!"{secs / 3600}h {secs % 3600 / 60}m"
  else s!"{secs / 86400}d {secs % 86400 / 3600}h"

/-- What the daemon says about itself. -/
structure Health where
  status : String
  version : String
  uptime : String
  deriving DecidableEq

namespace Health

def ofUptime (millis : Int) : Health := ⟨"healthy", ModelFleet.version, uptimeText millis⟩

def toJson (h : Health) : Json :=
  .object [("status", .str h.status), ("version", .str h.version), ("uptime", .str h.uptime)]

def ofJson : Decoder Health :=
  Decode.record "HealthCheckResponse" (mk <$> .required "status" Decode.text
    <*> .required "version" Decode.text <*> .required "uptime" Decode.text)

end Health

end ModelFleet
