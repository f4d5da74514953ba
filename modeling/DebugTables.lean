import DebugTables.Comparison
import DebugTables.Main
import DebugTables.Proofs.Agreement
import DebugTables.Proofs.Attributes
import DebugTables.Proofs.Batch
import DebugTables.Proofs.CommandLine
import DebugTables.Proofs.Dex.Delimiting
import DebugTables.Proofs.Dex.FirstFault
import DebugTables.Proofs.Dex.Image
import DebugTables.Proofs.Dex.Interference
import DebugTables.Proofs.Dex.Liveness
import DebugTables.Proofs.Dex.Occupancy
import DebugTables.Proofs.Dex.Openings
import DebugTables.Proofs.Dex.Overlap
import DebugTables.Proofs.Dex.Positions
import DebugTables.Proofs.Dex.Recall
import DebugTables.Proofs.Dex.Window
import DebugTables.Proofs.Extraction
import DebugTables.Proofs.FlatTables
import DebugTables.Proofs.Keys
import DebugTables.Proofs.Leb128.Decoding
import DebugTables.Proofs.SourceMap.Blocks
import DebugTables.Proofs.SourceMap.Coverage
import DebugTables.Proofs.SourceMap.Queries
import DebugTables.Proofs.SourceMap.Respacing
import DebugTables.Proofs.SourceMap.RoundTrip
import DebugTables.Proofs.SourceMap.Truncation
import DebugTables.SourceMap.WellFormed
