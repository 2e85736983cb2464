import CodeWindow.Main
import CodeWindow.Emulator.Scripted
import CodeWindow.Proofs.Agreement
import CodeWindow.Proofs.Agreement.Isa
import CodeWindow.Proofs.Noninterference
import CodeWindow.Proofs.Overwrite
import CodeWindow.Proofs.MapEntries
import CodeWindow.Proofs.SnapshotMemory
import CodeWindow.Proofs.Mapping
import CodeWindow.Proofs.Record
import CodeWindow.Proofs.EmulatedWalk
import CodeWindow.Proofs.StrayReads
import CodeWindow.Proofs.Withheld
import CodeWindow.Proofs.Sight
import CodeWindow.Proofs.Reachable
import CodeWindow.Proofs.WindowShape
import CodeWindow.Proofs.UnledWalk
import CodeWindow.Proofs.SamePath
import CodeWindow.Proofs.Chronicle
import CodeWindow.Proofs.Outlook
import CodeWindow.Proofs.Retelling
import CodeWindow.Proofs.ShownPath
import CodeWindow.Proofs.Operations
import CodeWindow.Proofs.Resources
import CodeWindow.Proofs.StraightCode
import CodeWindow.Proofs.SymbolHistory
import CodeWindow.Proofs.SymbolCoverage
import CodeWindow.Proofs.Direction
import CodeWindow.Proofs.NotTaken
import CodeWindow.Proofs.OperandValues
import CodeWindow.Proofs.BranchOperand
import CodeWindow.Proofs.ConstantChain
import CodeWindow.Proofs.PointerChain
import CodeWindow.Proofs.WordBits
import CodeWindow.Proofs.WordArithmetic
import CodeWindow.Proofs.OperandAddress
import CodeWindow.Proofs.RegisterOperand
import CodeWindow.Proofs.StoredNumber
import CodeWindow.Proofs.Comparison
import CodeWindow.Proofs.ReadAhead
import CodeWindow.Proofs.Interworking
import CodeWindow.Proofs.WidthMark
import CodeWindow.Proofs.Numerals
import CodeWindow.Proofs.RegionData
import CodeWindow.Proofs.LoadNote
import CodeWindow.Proofs.RegisterViews
import CodeWindow.Proofs.PopNote
import CodeWindow.Proofs.UpToDate
import CodeWindow.Proofs.LiteralText
import CodeWindow.Proofs.WrittenValues
import CodeWindow.Proofs.EncodedNumber
import CodeWindow.Proofs.ChainText
