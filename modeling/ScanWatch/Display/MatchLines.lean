import ScanWatch.Json.Writer
import ScanWatch.Payload.Job

namespace ScanWatch

/-- One compact text for each match, in order. -/
def matchLines (found : List Match) : List String :=
  found.map Json.compact

end ScanWatch
