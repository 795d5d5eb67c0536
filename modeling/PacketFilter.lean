import PacketFilter.Main
import PacketFilter.Settings.Json
import PacketFilter.Proofs.Files.Shelf
import PacketFilter.Proofs.Generator.Targets
import PacketFilter.Proofs.Generator.History
import PacketFilter.Proofs.Generator.Agreement
import PacketFilter.Proofs.Generator.Absorption
import PacketFilter.Proofs.Login.Layout
import PacketFilter.Proofs.Login.Allowing
import PacketFilter.Proofs.Service.Changes
import PacketFilter.Proofs.Address.Canonical
import PacketFilter.Proofs.Blocking.Count
import PacketFilter.Proofs.Blocking.Decision
import PacketFilter.Proofs.Blocking.Exchange
import PacketFilter.Proofs.Blocking.Pools
import PacketFilter.Proofs.Blocking.Threshold
import PacketFilter.Proofs.Address.Containment
import PacketFilter.Proofs.Address.Nesting
import PacketFilter.Proofs.Except
import PacketFilter.Proofs.Rule.Identifier
import PacketFilter.Proofs.Rule.Search
import PacketFilter.Proofs.Rule.Reordering
import PacketFilter.Proofs.Script.Fallback
import PacketFilter.Proofs.Script.Firewall
import PacketFilter.Proofs.Blocking.Logs
import PacketFilter.Proofs.Files.Path
import PacketFilter.Proofs.Files.Tree
import PacketFilter.Proofs.Generator.Lock
import PacketFilter.Proofs.Script.Segments
import PacketFilter.Proofs.Yaml.Block
import PacketFilter.Proofs.Yaml.Quoted
import PacketFilter.Proofs.Settings.Saving
import PacketFilter.Proofs.Script.AddressDirectory
import PacketFilter.Proofs.Script.OwnTemplate
import PacketFilter.Proofs.Template.Words
import PacketFilter.Proofs.Template.Families
import PacketFilter.Proofs.Blocking.Extent
import PacketFilter.Proofs.Text.Word
import PacketFilter.Proofs.Service.Grammar
import PacketFilter.Proofs.Regex.Ends
import PacketFilter.Proofs.Regex.Reading
import PacketFilter.Proofs.Signature.Anchor
import PacketFilter.Proofs.Signature.File
import PacketFilter.Proofs.Template.Boundary
import PacketFilter.Proofs.Template.Substitution
import PacketFilter.Proofs.Address.Spelling
import PacketFilter.Proofs.Address.Grammar
import PacketFilter.Proofs.Address.FullLength
import PacketFilter.Proofs.Regex.Words
import PacketFilter.Proofs.Signature.Capture
