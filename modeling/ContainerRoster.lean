import ContainerRoster.Main
import ContainerRoster.Proofs.CommandLine.Stages
import ContainerRoster.Proofs.Listing.Confinement
import ContainerRoster.Proofs.Output.Lossless
import ContainerRoster.Proofs.Storage.Faults
import ContainerRoster.Proofs.Storage.Fields
import ContainerRoster.Proofs.CommandLine.Usage
import ContainerRoster.Proofs.Text.TabStops
import ContainerRoster.Proofs.Output.Tables
import ContainerRoster.Proofs.Listing.Selection
import ContainerRoster.Proofs.Listing.Truncation
import ContainerRoster.Proofs.CommandLine.States
import ContainerRoster.Proofs.Age.Reading
import ContainerRoster.Proofs.Storage.Contiguous
import ContainerRoster.Proofs.Age.Accuracy
import ContainerRoster.Proofs.CommandLine.Roots
import ContainerRoster.Proofs.CommandLine.Endings
import ContainerRoster.Proofs.CommandLine.Arrangements
import ContainerRoster.Proofs.Storage.WrittenMaps
import ContainerRoster.Proofs.Storage.Granted
import ContainerRoster.Proofs.Storage.Options
import ContainerRoster.Proofs.Storage.Remapping
import ContainerRoster.Proofs.Storage.InvalidText
